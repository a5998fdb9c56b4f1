import VirtualPad.Configuration.Loaded
import VirtualPad.Document.Json

/-!
# Reports

The texts that the commands print: overviews of mappers, the mapping of one mapper, what a text of
the mapping language means, and failures with their causes.
-/

namespace VirtualPad.CommandLine

/-- A text filled up with blanks on the right. -/
def padRight (width : Nat) (s : String) : String :=
  s ++ String.ofList (List.replicate (width - s.length) ' ')

/-- A text filled up with blanks on the left. -/
def padLeft (width : Nat) (s : String) : String :=
  String.ofList (List.replicate (width - s.length) ' ') ++ s

/-- Lines of a text. -/
def lines (ls : List String) : String := String.join (ls.map (· ++ "\n"))

def bracketed (items : List String) : String := "[" ++ ", ".intercalate items ++ "]"

/-- Capabilities on one line. Axes that carry forces have a star. -/
def capabilitiesText (c : Capabilities) : String :=
  let axisText (a : Axis) := if c.hasForceAxis a then a.name ++ "*" else a.name
  "axes " ++ bracketed (c.axisList.map axisText) ++ ", " ++ toString c.buttons ++ " buttons, " ++
    (if c.hasPov then "POV" else "no POV")

/-- The part of a state that a controller with some capabilities shows, on one line. -/
def stateText (c : Capabilities) (s : VirtualState) : String :=
  let axes := c.axisList.map fun a => a.name ++ "=" ++ padLeft 6 (toString (s.axis a))
  let pressed := (s.pressedButtons.filter fun b => b.number ≤ c.buttons).map fun b =>
    toString b.number
  let pov := if c.hasPov then ["pov=" ++ s.pov.label] else []
  " ".intercalate (axes ++ ["buttons=[" ++ ",".intercalate pressed ++ "]"] ++ pov)

/-- Every mapper with its capabilities. -/
def listText (r : Registry) : String :=
  lines <| ["", "=== Mappers ==="] ++ r.mappers.entries.map fun (name, m) =>
    let mark := if name = r.default.name then " (default)" else ""
    "  " ++ name ++ mark ++ ": " ++ capabilitiesText m.capabilities

def capabilitiesDocument (c : Capabilities) : Document :=
  .object [
    ("axes", .list (c.axes.toList.map .bool)),
    ("force_feedback_axes", .list (c.forceAxes.toList.map .bool)),
    ("num_buttons", .nat c.buttons),
    ("has_pov", .bool c.hasPov)]

/-- The capabilities of every mapper as JSON. -/
def listJson (r : Registry) : String :=
  lines [Json.pretty 0 (.object (r.mappers.entries.map fun (name, m) =>
    (name, capabilitiesDocument m.capabilities)))]

def mapperText (m : Mapper) : String :=
  lines <|
    ["", "=== " ++ m.name ++ " ===", "  " ++ capabilitiesText m.capabilities,
      "  at rest: " ++ stateText m.capabilities (m.mapNeutral 0).state, "", "Elements:"] ++
    (Slot.all.map fun s => "  " ++ padRight 12 s.name ++ " " ++ (m.elements s).render) ++
    ["", "Force feedback:"] ++
    Actuator.all.map fun a => "  " ++ padRight 20 a.name ++ " " ++ (m.actuators a).render

/-- What a text means as an element mapper. -/
def elementText (text : String) : Except Language.ParseError String :=
  match ElementMapper.parse text with
  | .error e => .error e
  | .ok t => .ok (lines [t.render, "  targets: " ++ bracketed (t.targets.map Element.label)])

def actuatorText (text : String) : Except Language.ParseError String :=
  match ActuatorMode.parse text with
  | .error e => .error e
  | .ok m => .ok (lines [m.render, "  source axes: " ++ bracketed (m.sources.map Axis.name)])

/-- How many mappers there are, and which one is the default. -/
def registryText (r : Registry) : String :=
  toString r.size ++ " mappers, default " ++ r.default.name

/-! ## Failures -/

/-- A cause with its further lines below its first one. -/
def causeText (first further cause : String) : String :=
  "\n" ++ first ++ ("\n" ++ further).intercalate (cause.splitOn "\n")

/-- Causes, which are numbered if there are several. -/
def causesText : List String → String
  | [] => ""
  | [cause] => "\n\nCaused by:" ++ causeText "    " "    " cause
  | causes =>
    "\n\nCaused by:" ++ String.join (causes.zipIdx.map fun (cause, i) =>
      causeText (padLeft 5 (toString i) ++ ": ") "       " cause)

/-- A failure, the outermost text first. -/
def failureText (messages : List String) : String :=
  lines ["Error: " ++ messages.headD "" ++ causesText messages.tail]

end VirtualPad.CommandLine
