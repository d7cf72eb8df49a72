import VitaLinuxPort.Proof.Runtime.RateLimit
import VitaLinuxPort.Proof.RenderLoop.Fades
import VitaLinuxPort.Proof.RenderLoop.Gentle
import VitaLinuxPort.Proof.RenderLoop.Overtake
import VitaLinuxPort.Cart.Input.Discovery
import VitaLinuxPort.Cart.Input.Poll
import VitaLinuxPort.Cart.Input.Session
import VitaLinuxPort.Lib.Framing
import VitaLinuxPort.Proof.Input.Pump
import VitaLinuxPort.Proof.Input.Polls
import VitaLinuxPort.Proof.Input.Discovery
import VitaLinuxPort.Proof.Input.Desync
import VitaLinuxPort.Proof.Input.Nodes
import VitaLinuxPort.Proof.Input.Rank
import VitaLinuxPort.Proof.Input.Generation
import VitaLinuxPort.Lib.Ownership
import VitaLinuxPort.Proof.Input.Descriptors
import VitaLinuxPort.Lib.Lock
import VitaLinuxPort.Lib.Monitor
import VitaLinuxPort.Toolkit.VitaControl
import VitaLinuxPort.Toolkit.VitaControl.Invocation
import VitaLinuxPort.Toolkit.VitaControl.Processes
import VitaLinuxPort.Proof.VitaControl.Invocation
import VitaLinuxPort.Proof.VitaControl.Processes
import VitaLinuxPort.Proof.VitaControl.Interleaving
import VitaLinuxPort.Cart.Scripts
import VitaLinuxPort.Proof.Scripts.Ownership
import VitaLinuxPort.Proof.Input.Reassembly
import VitaLinuxPort.Proof.Input.ActionQueue
import VitaLinuxPort.Proof.Input.Representation
import VitaLinuxPort.Proof.Scripts.HandBack
import VitaLinuxPort.Cart.WorkerPool
import VitaLinuxPort.Proof.WorkerPool.Rounds
import VitaLinuxPort.Proof.WorkerPool.Lockstep
import VitaLinuxPort.Proof.WorkerPool.Progress
import VitaLinuxPort.Proof.WorkerPool.Returns
import VitaLinuxPort.Cart.Scenes
import VitaLinuxPort.Lib.Painting
import VitaLinuxPort.Proof.Scenes.Colors
import VitaLinuxPort.Proof.Scenes.Bands
import VitaLinuxPort.Cart.Presentation
import VitaLinuxPort.Lib.Bitmap
import VitaLinuxPort.Toolkit.FbServe
import VitaLinuxPort.Proof.Presentation.Upscale
import VitaLinuxPort.Proof.Presentation.Screenshot
import VitaLinuxPort.Lib.Checklist
import VitaLinuxPort.Tools.Manifest
import VitaLinuxPort.Proof.Manifest.References
import VitaLinuxPort.Lib.Python
import VitaLinuxPort.Lib.Ppm
import VitaLinuxPort.Cart.FlashCheck
import VitaLinuxPort.Proof.FlashCheck.Ppm
import VitaLinuxPort.Proof.FlashCheck.Analysis
import VitaLinuxPort.Proof.FlashCheck.Errors
import VitaLinuxPort.Proof.FlashCheck.ExitCode
import VitaLinuxPort.Lib.Pacer
import VitaLinuxPort.Lib.CInt
import VitaLinuxPort.Proof.Runtime.Pacing
import VitaLinuxPort.Proof.Runtime.SceneSelection
import VitaLinuxPort.Lib.Interpolation
import VitaLinuxPort.Proof.Transition.Blend
import VitaLinuxPort.Proof.RenderLoop.Arrival
import VitaLinuxPort.Lib.Response
import VitaLinuxPort.Cart.Input.Arithmetic
import VitaLinuxPort.Proof.Input.Normalize
import VitaLinuxPort.Proof.Input.Calibration
import VitaLinuxPort.Lib.Register
import VitaLinuxPort.Proof.Input.Resync
import VitaLinuxPort.Lib.Ranking
import VitaLinuxPort.Proof.Input.Selection
import VitaLinuxPort.Toolkit.Bench
import VitaLinuxPort.Toolkit.BenchGate
import VitaLinuxPort.Proof.Bench.Failure
import VitaLinuxPort.Proof.Bench.Gate
import VitaLinuxPort.Proof.Bench.Measured
import VitaLinuxPort.Proof.Bench.Progress
import VitaLinuxPort.Lib.Tiling
import VitaLinuxPort.Proof.WorkerPool.Tiling
import VitaLinuxPort.Tools.Initramfs
import VitaLinuxPort.Proof.Initramfs.Extraction
import VitaLinuxPort.Proof.FlashCheck.Cells
import VitaLinuxPort.Lib.SlidingWindow
import VitaLinuxPort.Proof.FlashCheck.RateWindow
import VitaLinuxPort.Cart.CanvasArithmetic
import VitaLinuxPort.Proof.Canvas.Shapes
import VitaLinuxPort.Proof.Canvas.Rect
import VitaLinuxPort.Proof.Canvas.Circle
import VitaLinuxPort.Proof.Canvas.Ppm
import VitaLinuxPort.Lib.Segmentation
import VitaLinuxPort.Proof.FbServe.Requests
import VitaLinuxPort.Lib.Format
import VitaLinuxPort.Toolkit.FbServe.Connections
import VitaLinuxPort.Proof.FbServe.Connections
import VitaLinuxPort.Lib.CExpression
import VitaLinuxPort.Cart.SceneArithmetic
import VitaLinuxPort.Proof.Scenes.RowArithmetic
import VitaLinuxPort.Proof.Scenes.OverlayArithmetic
import VitaLinuxPort.Proof.FlashCheck.Luminance
import VitaLinuxPort.Proof.InputWatch.Remaining
import VitaLinuxPort.Toolkit.InputWatch.Watch
import VitaLinuxPort.Proof.InputWatch.Watch
import VitaLinuxPort.Proof.VitaControl.RetryAdvice
import VitaLinuxPort.Lib.Path
import VitaLinuxPort.Toolkit.ToolkitMount
import VitaLinuxPort.Proof.ToolkitMount.Spelling
import VitaLinuxPort.Toolkit.VitaDev
import VitaLinuxPort.Proof.VitaDev.Output
import VitaLinuxPort.Tools.Console
import VitaLinuxPort.Proof.Manifest.Console
import VitaLinuxPort.Toolkit.VitaStorage
import VitaLinuxPort.Proof.VitaStorage.Attributes
import VitaLinuxPort.Proof.VitaStorage.Inventory
import VitaLinuxPort.Tools.ToolkitSquashfs
import VitaLinuxPort.Proof.ToolkitSquashfs.Verification
import VitaLinuxPort.Lib.ProgramState
import VitaLinuxPort.Toolkit.VitaFb
import VitaLinuxPort.Proof.VitaFb.Geometry
import VitaLinuxPort.Proof.VitaFb.Commands
import VitaLinuxPort.Proof.VitaFb.Capture
import VitaLinuxPort.Proof.VitaFb.Restore
import VitaLinuxPort.Tools.Publication
import VitaLinuxPort.Proof.Publication.Replacement
