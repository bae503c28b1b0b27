import RayTracer.Main
import RayTracer.Proofs.AcceleratedMesh
import RayTracer.Proofs.Box.Semilattice
import RayTracer.Proofs.Bvh.Work
import RayTracer.Proofs.Camera
import RayTracer.Proofs.Mesh.Normals
import RayTracer.Proofs.Mesh.Texture
import RayTracer.Proofs.Obj.SmoothNormals
import RayTracer.Proofs.Program
import RayTracer.Proofs.Scene.Brightness
import RayTracer.Proofs.Scene.Nearest
import RayTracer.Proofs.Scene.Refusal
import RayTracer.Proofs.Scene.SafePoint
import RayTracer.Proofs.Scene.Superposition
import RayTracer.Proofs.Scene.Trees
import RayTracer.Proofs.Ingest.Additions
import RayTracer.Proofs.Ingest.Perpendicular
import RayTracer.Proofs.Ingest.Winding
import RayTracer.Proofs.Shape.Bounds
import RayTracer.Proofs.Box.Semilattice
