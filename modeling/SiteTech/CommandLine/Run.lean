import SiteTech.CommandLine.Arguments
import SiteTech.Crawl.Setup

namespace SiteTech.CommandLine

/-- What is left behind: an exit code and two texts, for the answer and for what went wrong. -/
structure Output where
  code : UInt32
  answer : String
  complaint : String
deriving DecidableEq, Repr

/-- The name of the program with its version. -/
def versionText : String := "rswapcrawl 0.1.0\n"

/-- How the program is called. -/
def helpText : String :=
  "Usage: rswapcrawl [OPTIONS] <URL>\n\nOptions:\n" ++
    String.join (Setting.all.map fun s => "      --" ++ s.name ++ " <VALUE>\n") ++
    String.join (Switch.all.map fun s => "      --" ++ s.name ++ "\n") ++
    "  -h, --help\n  -V, --version\n"

/-- Indents all lines. -/
def indent (text : List Char) : List Char :=
  Text.join ['\n'] ((Text.splitOn '\n' text).map ("    ".toList ++ ·))

/-- What went wrong, and why. -/
def complaint (what : String) (cause : Error) : String :=
  "Error: " ++ what ++ "\n\nCaused by:\n" ++ String.ofList (indent cause.message.toList) ++ "\n"

/-- The answer to bad arguments. -/
def UsageFault.output (fault : UsageFault) : Output := ⟨2, "", "error: " ++ fault.message ++ "\n"⟩

/-- The answer if the analysis cannot be set up. -/
def setUpFailed (cause : Error) : Output := ⟨1, "", complaint "初始化失败" cause⟩

/-- The answer if the analysis fails. -/
def analysisFailed (address : String) (cause : Error) : Output :=
  ⟨1, "", complaint ("分析失败：" ++ address) cause⟩

/-- The answer that a report is. -/
def Options.output (o : Options) (report : Report) : Output :=
  ⟨0, (if o.pretty then report.prettyText else report.compactText) ++ "\n", ""⟩

variable {m : Type → Type} [Monad m]

/-- Analyses a site as the arguments say. `read` reads a file, and `pause` waits for a number of
milliseconds. -/
def analyze (network : Http.Network m) (read : String → m (Except FileFault (List UInt8)))
    (pause : UInt64 → m Unit) (o : Options) : StateT WebState m Output := do
  match ← Analyzer.setUp o.config RuleLibrary.byKey .inOrder network (read o.config.rulesPath)
      (pause o.config.delay) with
  | .error cause => return setUpFailed cause
  | .ok analyzer =>
    match ← analyzer.analyze o.address with
    | .error cause => return analysisFailed o.address cause
    | .ok report => return o.output report

/-- Does what the arguments ask for. -/
def run (network : Http.Network m) (read : String → m (Except FileFault (List UInt8)))
    (pause : UInt64 → m Unit) (arguments : List String) : StateT WebState m Output :=
  match Task.ofArguments arguments with
  | .error fault => return fault.output
  | .ok .showVersion => return ⟨0, versionText, ""⟩
  | .ok .showHelp => return ⟨0, helpText, ""⟩
  | .ok (.analyze o) => analyze network read pause o

end SiteTech.CommandLine
