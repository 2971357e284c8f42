import ShutterGateway.CommandLine.Arguments

/-!
The explanation of the command line. A page names what is explained, shows how it is used, and
lists commands, arguments and options with a few words each, in two columns.
-/

namespace ShutterGateway.CommandLine

/-- The name and the version of the program. -/
def versionText : String := "klf200 0.1.0\n"

/-- A row of a list: an item and the words about it. -/
abbrev Row := String × String

/-- The lines of a list under its heading. The words about the items stand below each other. -/
def listing (heading : String) (rows : List Row) : List String :=
  if rows = [] then []
  else
    let width := (rows.map fun row => row.1.length).foldl max 0
    "" :: (heading ++ ":") :: rows.map fun (item, words) =>
      "  " ++ item ++ String.ofList (List.replicate (width - item.length) ' ') ++ "  " ++ words

/-- A page of explanation. -/
structure Page where
  about : String
  usage : String
  commands : List Row := []
  arguments : List Row := []
  options : List Row

namespace Page

/-- The text of a page. -/
def text (page : Page) : String :=
  let opening := if page.about = "" then [] else [page.about, ""]
  String.join <| List.map (· ++ "\n") <|
    opening ++ ["Usage: klf200 " ++ page.usage]
      ++ listing "Commands" page.commands ++ listing "Arguments" page.arguments
      ++ listing "Options" page.options

end Page

/-- The words about the values of a velocity. -/
def velocityWords : String := "[possible values: default, silent, fast]"

/-- The option that asks for a page. -/
def helpRow : Row := ("-h, --help", "Print help")

namespace Verb

/-- The words about a subcommand. Some have none. -/
def about : Verb → String
  | version => "Firmware and API version"
  | nodes => "All nodes known to the gateway"
  | node => "A single node"
  | scenes => "All stored scenes"
  | scene => "Runs a scene"
  | stopScene => ""
  | move => "Moves a node to a position (0 closed, 100 open)"
  | velocity => ""
  | rename => ""
  | mode => ""
  | watch => "Prints position events until Ctrl-C"

/-- The page about a subcommand. -/
def page (verb : Verb) : Page :=
  let arguments := verb.parameters.map fun (name, parameter) =>
    ("<" ++ name ++ ">", if parameter = .velocity then velocityWords else "")
  { about := verb.about
    usage := " ".intercalate <|
      [verb.word] ++ (if verb.takesVelocity then ["[OPTIONS]"] else []) ++ arguments.map (·.1)
    arguments := arguments
    options :=
      if verb.takesVelocity then
        [("    --velocity <VELOCITY>", "[default: default] " ++ velocityWords), helpRow]
      else [helpRow] }

end Verb

/-- The page about the program. The host that the environment gives shows in it. -/
def mainPage (host? : Option String) : Page where
  about := "Operate a Velux KLF200 gateway"
  usage := "[OPTIONS] <COMMAND>"
  commands := Verb.all.map (fun verb => (verb.word, verb.about))
    ++ [("help", "Print this message or the help of the given subcommand(s)")]
  options :=
    [("-c, --config <CONFIG>", "JSON configuration file. Overrides the connection flags"),
      ("    --host <HOST>",
        "Gateway hostname or IP address [env: KLF200_HOST=" ++ host?.getD "" ++ "]"),
      ("    --port <PORT>", ""),
      ("    --password <PASSWORD>",
        "Gateway password (the Wi-Fi key printed on the device) [env: KLF200_PASSWORD]"),
      ("-v, --verbose", "Debug logging for every target"),
      helpRow,
      ("-V, --version", "Print version")]

/-- The page that is asked for. -/
def pageFor (host? : Option String) : Option Verb → Page
  | none => mainPage host?
  | some verb => verb.page

end ShutterGateway.CommandLine
