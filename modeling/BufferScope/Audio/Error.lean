/-
Why audio work fails. A constructor names the cause, and `AudioError.message` is the only place
that words it.
-/
import BufferScope.Decimal.Text

namespace BufferScope

/-! ## Files -/

/-- Why a file could not be opened, read or written. -/
inductive FileError where
  | missing
  | exists
  | notDirectory
  | isDirectory
  | nameTooLong
  | tooManyLinks
  /-- A path that holds the character with code zero. -/
  | nulInPath
  | notText
  /-- The file ended before what was expected of it. -/
  | truncated
  deriving DecidableEq, Repr

def FileError.message : FileError → String
  | .missing => "No such file or directory (os error 2)"
  | .exists => "File exists (os error 17)"
  | .notDirectory => "Not a directory (os error 20)"
  | .isDirectory => "Is a directory (os error 21)"
  | .nameTooLong => "File name too long (os error 36)"
  | .tooManyLinks => "Too many levels of symbolic links (os error 40)"
  | .nulInPath => "file name contained an unexpected NUL byte"
  | .notText => "stream did not contain valid UTF-8"
  | .truncated => "Failed to read enough bytes."

/-! ## Audio files -/

/-- Why bytes are no sound file. -/
inductive WaveFault where
  | noRiffTag
  | noWaveTag
  | noFormat
  | formatSize
  | unexpectedFormatSize
  | noChannels
  | bitsExceedSample
  | inconsistentFormat
  | bitsNotWholeBytes
  | noBits
  | bitsNot8Or16
  | bitsNot32
  | extensionSize
  | extensibleSize
  | dataNotWholeSamples
  | dataNotWholeFrames
  deriving DecidableEq, Repr

def WaveFault.message : WaveFault → String
  | .noRiffTag => "no RIFF tag found"
  | .noWaveTag => "no WAVE tag found"
  | .noFormat => "missing fmt chunk"
  | .formatSize => "invalid fmt chunk size"
  | .unexpectedFormatSize => "unexpected fmt chunk size"
  | .noChannels => "file contains zero channels"
  | .bitsExceedSample => "sample bits exceeds size of sample"
  | .inconsistentFormat => "inconsistent fmt chunk"
  | .bitsNotWholeBytes => "bits per sample is not a multiple of 8"
  | .noBits => "bits per sample is 0"
  | .bitsNot8Or16 => "bits per sample is not 8 or 16"
  | .bitsNot32 => "bits per sample is not 32"
  | .extensionSize => "unexpected WAVEFORMATEX size"
  | .extensibleSize => "unexpected WAVEFORMATEXTENSIBLE size"
  | .dataNotWholeSamples => "data chunk length is not a multiple of sample size"
  | .dataNotWholeFrames => "invalid data chunk length"

/-- Why a sound file cannot be decoded. -/
inductive CodecError where
  | malformed (fault : WaveFault)
  | unsupported
  | tooWide
  deriving DecidableEq, Repr

def CodecError.message : CodecError → String
  | .malformed fault => "Ill-formed WAVE file: " ++ fault.message
  | .unsupported => "The wave format of the file is not supported."
  | .tooWide => "The sample has more bits than the destination type."

/-! ## Causes by kind -/

/-- A setting that no effect or host can work with. -/
inductive ConfigurationError where
  | sampleRate (rate : Float)
  | unknownEffect (name : String)
  | unknownWavelet (name : String)
  | unknownExtension (name : String)
  | hostSampleRate
  | hostBufferSize
  | hostChannels
  | renderLength (seconds : Float)
  | renderTooLong (seconds limit : Float)

def ConfigurationError.message : ConfigurationError → String
  | .sampleRate rate => "sample rate must be positive and finite, got " ++ Decimal.plain.text rate
  | .unknownEffect name => "unknown effect '" ++ name ++ "' (expected spectral, tone or wavelet)"
  | .unknownWavelet name => "unknown wavelet '" ++ name ++ "'"
  | .unknownExtension name => "unknown extension mode '" ++ name ++ "'"
  | .hostSampleRate => "host sample rate must be non-zero"
  | .hostBufferSize => "host buffer size must be non-zero"
  | .hostChannels => "host needs at least one output channel"
  | .renderLength seconds =>
    "render length must be a non-negative number of seconds, got " ++ Decimal.plain.text seconds
  | .renderTooLong seconds limit =>
    "render length of " ++ Decimal.plain.text seconds ++ " s exceeds the " ++ Decimal.plain.text limit
      ++ " s limit"

/-- Buffers of the wrong shape. -/
inductive InputError where
  | noInputChannels
  | emptyInput
  | noOutputChannels
  | noChannelsToWrite
  | raggedChannels
  | tooManyChannels (count : Nat)
  deriving DecidableEq, Repr

def InputError.message : InputError → String
  | .noInputChannels => "no input channels supplied"
  | .emptyInput => "input channel 0 is empty"
  | .noOutputChannels => "no output channels supplied"
  | .noChannelsToWrite => "cannot write a WAV file with no channels"
  | .raggedChannels => "all channels must have the same length"
  | .tooManyChannels count => "too many channels: " ++ toString count

/-- What a transform refuses. -/
inductive TransformError where
  | nonFinite (sample : Float) (index : Nat)
  | emptySignal
  | emptySpectrum
  | nothingToDecompose
  | bandLengths (approx detail : Nat)
  | tooFewCoefficients (wavelet : String) (needed found : Nat)

def TransformError.message : TransformError → String
  | .nonFinite sample index =>
    "non-finite sample " ++ Decimal.plain.text sample ++ " at index " ++ toString index
  | .emptySignal => "cannot transform an empty signal"
  | .emptySpectrum => "cannot invert an empty spectrum"
  | .nothingToDecompose => "cannot decompose an empty signal"
  | .bandLengths approx detail =>
    "coefficient length mismatch: cA=" ++ toString approx ++ " cD=" ++ toString detail
  | .tooFewCoefficients wavelet needed found =>
    wavelet ++ " needs at least " ++ toString needed ++ " coefficients per band, got " ++ toString found

/-- Why a picture could not be encoded. -/
inductive PictureError where
  | file (error : FileError)
  | zeroWidth
  | zeroHeight
  deriving DecidableEq, Repr

def PictureError.message : PictureError → String
  | .file error => error.message
  | .zeroWidth => "Zero width not allowed"
  | .zeroHeight => "Zero height not allowed"

/-- Why a frame could not be drawn or shown. -/
inductive RenderError where
  | emptyCanvas (width height : Nat)
  | emptyScope (width height : Nat)
  | frameNotWritten (path : String) (cause : PictureError)
  | noDisplay
  /-- What a window system says of a window that it cannot open, or that cannot show a frame. -/
  | window (text : String)
  /-- A screen that cannot show frames at the moment. -/
  | screenUnavailable
  deriving DecidableEq, Repr

def RenderError.message : RenderError → String
  | .emptyCanvas width height => "canvas must be non-empty, got " ++ toString width ++ "x" ++ toString height
  | .emptyScope width height =>
    "scope canvas must be non-empty, got " ++ toString width ++ "x" ++ toString height
  | .frameNotWritten path cause => "failed to write " ++ path ++ ": " ++ cause.message
  | .noDisplay => "no display available"
  | .window text => text
  | .screenUnavailable => "display unavailable"

/-- Why audio work failed. -/
inductive AudioError where
  | configuration (cause : ConfigurationError)
  | input (cause : InputError)
  | transform (cause : TransformError)
  | render (cause : RenderError)
  | codec (cause : CodecError)
  | file (cause : FileError)

def AudioError.message : AudioError → String
  | .configuration cause => "Invalid configuration: " ++ cause.message
  | .input cause => "Invalid input: " ++ cause.message
  | .transform cause => "Transform error: " ++ cause.message
  | .render cause => "Render error: " ++ cause.message
  | .codec cause => "Codec error: " ++ cause.message
  | .file cause => "IO error: " ++ cause.message

end BufferScope
