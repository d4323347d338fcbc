import BufferScope.Audio.Buffer
import BufferScope.Audio.Error
import BufferScope.Canvas
import BufferScope.Canvas.Png
import BufferScope.Canvas.Png.Reader
import BufferScope.Command.Arguments
import BufferScope.Command.Error
import BufferScope.Command.Help
import BufferScope.Command.Run
import BufferScope.Complex
import BufferScope.Decimal.Binary
import BufferScope.Decimal.Reading
import BufferScope.Decimal.Shortest
import BufferScope.Decimal.Text
import BufferScope.Effect.Basic
import BufferScope.Effect.Kind
import BufferScope.Effect.Spectral
import BufferScope.Effect.Tone
import BufferScope.Effect.Wavelet
import BufferScope.Files
import BufferScope.Files.Node
import BufferScope.Files.Path
import BufferScope.Host
import BufferScope.Log
import BufferScope.Log.Filter
import BufferScope.Log.Line
import BufferScope.Log.Rule
import BufferScope.Main
import BufferScope.Number
import BufferScope.Plot.Axes
import BufferScope.Plot.Basic
import BufferScope.Plot.Line
import BufferScope.Proofs.Audio.Buffer
import BufferScope.Proofs.Decimal.Value
import BufferScope.Proofs.Effect.History
import BufferScope.Proofs.Effect.Recorder
import BufferScope.Proofs.Effect.Tone
import BufferScope.Proofs.Host.Calls
import BufferScope.Proofs.Host.Drive
import BufferScope.Proofs.Host.Run
import BufferScope.Proofs.Host.Slices
import BufferScope.Proofs.Number
import BufferScope.Proofs.Plot.Clip
import BufferScope.Proofs.Plot.Layers
import BufferScope.Proofs.Plot.Line
import BufferScope.Proofs.Plot.Paint
import BufferScope.Proofs.Plot.Samples
import BufferScope.Proofs.Wavelet.Bands
import BufferScope.Proofs.Wavelet.Energy
import BufferScope.Proofs.Wavelet.Extension
import BufferScope.Proofs.Wavelet.Moments
import BufferScope.Proofs.Wavelet.RoundTrip
import BufferScope.Proofs.Wavelet.Shipped
import BufferScope.Proofs.Wavelet.Tap
import BufferScope.Proofs.Wavelet.Transform
import BufferScope.Scope
import BufferScope.Screen.Configured
import BufferScope.Screen.Memory
import BufferScope.Screen.PngSequence
import BufferScope.Screen.Window
import BufferScope.Settings.Basic
import BufferScope.Settings.Document
import BufferScope.Settings.File
import BufferScope.Signal
import BufferScope.Spectrum.Processor
import BufferScope.Spectrum.Transform
import BufferScope.Text.Alphanumeric
import BufferScope.Text.Blank
import BufferScope.Text.Hexadecimal
import BufferScope.Text.Pattern
import BufferScope.Text.Pattern.Class
import BufferScope.Text.Pattern.Flags
import BufferScope.Text.Pattern.Symbol
import BufferScope.Text.Quoted
import BufferScope.Text.Ranges
import BufferScope.Text.Visible
import BufferScope.Toml.Document
import BufferScope.Toml.Moment
import BufferScope.Toml.Number
import BufferScope.Toml.Text
import BufferScope.Toml.Value
import BufferScope.Toml.Writer
import BufferScope.Wave.Bytes
import BufferScope.Wave.Clip
import BufferScope.Wave.File
import BufferScope.Wave.Format
import BufferScope.Wave.Reader
import BufferScope.Wave.Writer
import BufferScope.Wavelet.Extension
import BufferScope.Wavelet.FilterBank
import BufferScope.Wavelet.Transform
import BufferScope.Proofs.Screen.Blit
import BufferScope.Proofs.Screen.Recorder
import BufferScope.Proofs.Host.Turns
import BufferScope.Proofs.Host.Watched
import BufferScope.Proofs.Host.Session
import BufferScope.Proofs.Effect.Wavelet
import BufferScope.Proofs.Host.Transparent
import BufferScope.Proofs.Files.Places
import BufferScope.Proofs.Files.Overwrite
import BufferScope.Proofs.Wave.Clip
import BufferScope.Proofs.Wave.Header
import BufferScope.Proofs.Wave.RoundTrip
import BufferScope.Proofs.Toml.Number
import BufferScope.Proofs.Toml.Scalar
import BufferScope.Proofs.Toml.Document
import BufferScope.Proofs.Settings.Document
import BufferScope.Proofs.Settings.RoundTrip
import BufferScope.Proofs.Spectrum.Circle
import BufferScope.Proofs.Spectrum.Sums
import BufferScope.Proofs.Spectrum.Processor
import BufferScope.Proofs.Effect.Spectral
import BufferScope.Proofs.Blocks
import BufferScope.Proofs.Spectrum.RoundTrip
import BufferScope.Proofs.Effect.Refusal
import BufferScope.Proofs.Effect.Forgetful
import BufferScope.Proofs.Host.Blockwise
import BufferScope.Proofs.Host.Resume
import BufferScope.Proofs.Effect.Past
import BufferScope.Proofs.Effect.Reset
import BufferScope.Proofs.Effect.Plot
import BufferScope.Proofs.Float
import BufferScope.Proofs.Host.Block
import BufferScope.Proofs.Host.Tone
import BufferScope.Proofs.Wave.Reader
import BufferScope.Proofs.Host.FanOut
import BufferScope.Proofs.Command.Render
import BufferScope.Proofs.Files.Below
import BufferScope.Proofs.Screen.Frames
import BufferScope.Proofs.Command.Spared
import BufferScope.Proofs.Command.Stages
import BufferScope.Proofs.Effect.Outputs
import BufferScope.Proofs.Wavelet.Quadrature
import BufferScope.Proofs.Wavelet.Workspace
import BufferScope.Proofs.Wavelet.Edges
import BufferScope.Proofs.Canvas.Png
import BufferScope.Proofs.Screen.Sequence
