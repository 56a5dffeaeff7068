import Assay.CommandLine.Reader

/-!
# Help

What is shown where no command is carried out: the help on the program or on a
command, its version, or what is wrong with the command line.
-/

set_option autoImplicit false

namespace Assay.CommandLine

def programName : String := "bench-runner"

def programVersion : String := "0.1.0"

namespace OptionSpec

def spellings (o : OptionSpec) : String :=
  let short := match o.short with
    | some c => "-" ++ String.singleton c ++ ", "
    | none => "    "
  short ++ "--" ++ o.long ++ (if o.takesValue then " <VALUE>" else "")

def helpLine (locale : Locale) (o : OptionSpec) : String :=
  "  " ++ o.spellings ++ "  " ++ o.about.wording locale

end OptionSpec

def optionLines (locale : Locale) (options : List OptionSpec) : List String :=
  "Options:" :: options.map (OptionSpec.helpLine locale)

def commandLine (locale : Locale) (c : Command) : String :=
  "  " ++ c.name ++ "  " ++ c.about.wording locale

def helpPage (locale : Locale) : Option Command → String
  | some c =>
    String.intercalate "\n"
      ([c.about.wording locale, "", "Usage: " ++ programName ++ " " ++ c.name ++ " [OPTIONS]", ""]
        ++ optionLines locale c.options)
  | none =>
    String.intercalate "\n"
      ([Message.programAbout.wording locale, "",
        "Usage: " ++ programName ++ " [OPTIONS] <COMMAND>", "", "Commands:"] ++
        Command.all.map (commandLine locale) ++ [""] ++ optionLines locale outerOptions)

namespace Stop

def exitCode : Stop → Nat
  | helpWanted _ => 0
  | versionWanted => 0
  | _ => 2

def text (locale : Locale) : Stop → String
  | unknownArgument a => "error: unexpected argument '" ++ a ++ "' found"
  | unknownCommand c => "error: unrecognized subcommand '" ++ c ++ "'"
  | commandMissing => "error: a subcommand is required but was not given"
  | valueMissing o => "error: a value is required for '--" ++ o ++ "' but none was given"
  | badValue o v => "error: invalid value '" ++ v ++ "' for '--" ++ o ++ "'"
  | repeated o => "error: '--" ++ o ++ "' cannot be used multiple times"
  | surplusValue o v => "error: unexpected value '" ++ v ++ "' for '--" ++ o ++ "'"
  | helpWanted c => helpPage locale c
  | versionWanted => programName ++ " " ++ programVersion
  | nothingGiven => helpPage locale none

end Stop

end Assay.CommandLine
