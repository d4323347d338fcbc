/-
The pages that explain the command line.
-/
namespace BufferScope.Command

/-- What can be explained. -/
inductive HelpPage where
  | program
  | render
  | effects
  | help
  deriving DecidableEq, Repr

/-- Lines, each with its end. -/
def linesText (lines : List String) : String := String.join (lines.map (· ++ "\n"))

def HelpPage.text : HelpPage → String
  | .program => linesText [
    "Per-buffer audio effects with a debug scope",
    "",
    "Usage: pysynth [OPTIONS] <COMMAND>",
    "",
    "Commands:",
    "  render   Render an effect offline, buffer by buffer",
    "  effects  List available effects",
    "  help     Print this message or the help of the given subcommand(s)",
    "",
    "Options:",
    "  -v, --verbose  Enable verbose logging",
    "  -h, --help     Print help"]
  | .render => linesText [
    "Render an effect offline, buffer by buffer",
    "",
    "Usage: pysynth render [OPTIONS] --effect <EFFECT>",
    "",
    "Options:",
    "  -e, --effect <EFFECT>          Effect to run (spectral, tone, wavelet)",
    "  -v, --verbose                  Enable verbose logging",
    "  -i, --input <INPUT>            Input WAV file (required by effects that read input)",
    "  -o, --output <OUTPUT>          Output WAV file",
    "  -s, --seconds <SECONDS>        Seconds to render (defaults to the input length, or 1 second)",
    "      --frames-dir <FRAMES_DIR>  Write scope frames as PNG files to this directory",
    "  -c, --config <CONFIG>          TOML configuration file",
    "      --no-window                Render scope frames in memory instead of opening a window",
    "      --no-display               Do not render scope frames",
    "  -h, --help                     Print help"]
  | .effects => linesText [
    "List available effects",
    "",
    "Usage: pysynth effects [OPTIONS]",
    "",
    "Options:",
    "  -v, --verbose  Enable verbose logging",
    "  -h, --help     Print help"]
  | .help => linesText [
    "Print this message or the help of the given subcommand(s)",
    "",
    "Usage: pysynth help [COMMAND]...",
    "",
    "Arguments:",
    "  [COMMAND]...  Print help for the subcommand(s)"]

end BufferScope.Command
