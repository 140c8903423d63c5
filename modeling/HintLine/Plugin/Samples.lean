import HintLine.Plugin.Catalogue

/-!
Sample plug-ins: a display for each way in which a display may answer, sources of languages, and modules that
cannot be imported.
-/

set_option autoImplicit false

namespace HintLine.Plugin.Samples

/-- A fragment: a text and a highlight. -/
def fragment (text highlight : String) : Value := .list [.str text, .str highlight]

def joined (_ : Int) (hints : List Hint) : Value :=
  .list [fragment (String.intercalate "/" (hints.map Hint.label)) "Comment"]

/-- A fragment for each hint, with its place. -/
def perHint (line : Int) (hints : List Hint) : Value :=
  .list (hints.map fun h =>
    fragment s!"{line}:{h.character}:{h.label}" (if h.isType then "Type" else "Identifier"))

/-- The labels, all with one highlight. -/
def labelled (highlight : String) (_ : Int) (hints : List Hint) : Value :=
  .list (hints.map fun h => fragment h.label highlight)

/-- Numbers in place of texts: the line, and how many hints there are. -/
def numbers (line : Int) (hints : List Hint) : Value :=
  .list [.list [.int line, .str "Type"], .list [.int hints.length, .str "Cursor"]]

/-- A display that cannot fail, as a member under its name. -/
def display (name : String) (f : Int → List Hint → Value) : String × Member :=
  (name, .callable (.ofDisplay name fun line hints => .ok (f line hints)))

def fixed (name : String) (v : Value) : String × Member := display name fun _ _ => v

def failing : Callable := .ofDisplay "raises" fun _ _ => .error (.raised .badValue "display failed")

def instance_ : Callable where
  name := "Instance object"
  onLine _ _ := .ok (.list [fragment "instance" "Normal"])
  alone := .error (.call (.missing "Instance.__call__" ["line", "hints"]))

/-- What makes such displays; it takes no arguments. -/
def constructor : Callable where
  name := "Instance"
  onLine _ _ := .error (.call (.noArguments "Instance"))
  alone := .ok (.object "Instance" "<Instance object>")

def displays : Module where
  name := "plug.displays"
  isPackage := false
  failure := none
  members :=
    [display "joined" joined,
     display "per_hint" perHint,
     fixed "nothing" .null,
     fixed "empty" (.list []),
     fixed "false" (.bool false),
     fixed "number" (.int 5),
     display "lists" (labelled "Delimiter"),
     display "generated" (labelled "ErrorMsg"),
     fixed "strings" (.list [.str "ab", .str "cd"]),
     fixed "mapping" (.dict [("xy", .int 1), ("zw", .int 2)]),
     display "numbers" numbers,
     fixed "unknown_group" (.list [fragment "plain" "NoSuchGroup"]),
     fixed "triples" (.list [.list [.str "a", .str "b", .str "c"]]),
     fixed "singles" (.list [.list [.str "a"]]),
     fixed "partial" (.list [fragment "a" "Type", .list [.str "b"]]),
     ("raises", .callable failing),
     ("no_args", .callable (.ofSource "no_args" (.ok (.list [])))),
     ("instance", .callable instance_),
     ("Instance", .callable constructor),
     ("CONSTANT", .value (.str "x")),
     ("NUMBER", .value (.int 42)),
     ("NOTHING", .value .null)]

def langs : Module where
  name := "plug.langs"
  isPackage := false
  failure := none
  members :=
    [("toy", .callable (.ofSource "toy" (.ok (.str "toy")))),
     ("fails", .callable (.ofSource "fails" (.error (.raised .runtime "grammar is broken")))),
     ("CONSTANT", .value (.int 5))]

def package : Module where
  name := "plug"
  isPackage := true
  failure := none
  members :=
    [("NAME", .value (.str "plug")), ("displays", .module "plug.displays"), ("langs", .module "plug.langs")]

def broken : Module := ⟨"plug.broken", false, [], some (.raised .runtime "plugin is broken")⟩

def needs : Module := ⟨"plug.needs", false, [], some (.missing (.noModule "plug.absent"))⟩

def catalogue : Catalogue := [package, displays, langs, broken, needs]

end HintLine.Plugin.Samples
