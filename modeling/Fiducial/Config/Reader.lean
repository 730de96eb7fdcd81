import Fiducial.Config.Basic

/-!
# Reading a configuration

A configuration is read from the entries of a mapping.  Unknown fields come first, whatever else is
wrong; then required fields that are missing; then each field is read in turn; last come the bounds.
What cannot be read because it is of the wrong type makes the whole construction fail, with the
reason in the wording of the fault.
-/

namespace Fiducial

namespace StaticTransform

def fields : List String := ["parent", "child", "translation", "rotation_xyzw"]

def defaultTranslation : Value := .list [.float 0.0, .float 0.0, .float 0.0]

def defaultRotation : Value := .list [.float 0.0, .float 0.0, .float 0.0, .float 1.0]

end StaticTransform

namespace Config

/-- The fields of a configuration; the first five are required. -/
def requiredFields : List String :=
  ["target_tag_ids", "base_covariance", "distance_threshold_m", "ekf_time_tolerance_s",
    "ekf_position_tolerance_m"]

def optionalFields : List String :=
  ["marker_size_m", "max_reproj_rmse_px", "detection_mode", "min_marker_size", "map_frame",
    "base_frame", "static_transforms"]

def fields : List String := requiredFields ++ optionalFields

def isField (names : List String) : Value → Bool
  | .str s => names.contains s
  | _ => false

/-! ## Wording of arguments -/

/-- Names between quotes, with a comma before the last of three or more. -/
def enumerate : List String → String
  | [] => ""
  | [a] => a
  | [a, b] => a ++ " and " ++ b
  | as => ", ".intercalate as.dropLast ++ ", and " ++ as.getLastD ""

def missingText (type : String) (names : List String) : String :=
  type ++ ".__init__() missing " ++ digitText names.length ++ " required positional argument" ++
    (if names.length = 1 then "" else "s") ++ ": " ++ enumerate (names.map Text.quoted)

def unexpectedText (type name : String) : String :=
  type ++ ".__init__() got an unexpected keyword argument " ++ Text.quoted name

/-! ## Keys -/

/-- Whether values of this kind have an order among each other. -/
def orderedWith : Value → Value → Bool
  | .str _, .str _ => true
  | .bytes _, .bytes _ => true
  | .date .., .date .. => true
  | .moment a, .moment b => a.offset.isSome == b.offset.isSome
  | a, b => isNumber a && isNumber b
where
  isNumber : Value → Bool
    | .bool _ | .int _ | .float _ => true
    | _ => false

def numberKey (v : Value) : Float :=
  match v.toFloat with
  | .ok x => x
  | .error _ => Binary.infinity

/-- The order of keys that have one. -/
def keyLe : Value → Value → Bool
  | .str a, .str b => decide (a ≤ b)
  | .bytes a, .bytes b => !List.lex b a (fun x y => decide (x < y))
  | .date a b c, .date d e f => !List.lex [d, e, f] [a, b, c] (fun x y => decide (x < y))
  | .moment a, .moment b => decide (a.instant ≤ b.instant)
  | .int a, .int b => decide (a ≤ b)
  | a, b => numberKey a ≤ numberKey b

/-- Keys in order, if they can be put in order. -/
def sortKeys? (keys : List Value) : Option (List Value) :=
  match keys with
  | [] => some []
  | [k] => some [k]
  | k :: ks => if ks.all (orderedWith k) then some (keys.mergeSort keyLe) else none

/-- The fault of keys that are no fields, if there are any. -/
def unknownFault (keys : List Value) : Option Fault :=
  match keys.filter fun k => !isField fields k with
  | [] => none
  | unknown => match sortKeys? unknown with
    | some names => some (if (Value.list names).isWritable then .unknownFields names
        else Value.tooLong)
    | none => some (.wrongType "'<' not supported between instances")

/-! ## Parts -/

def idsOf (v : Value) : Except Fault (List String) := do
  (← v.items).mapM Value.name

def numbersOf (v : Value) : Except Fault (List Float) := do
  (← v.items).mapM Value.toFloat

/-- One element of a list that is to be read as a mapping: a key and its value. -/
def pairOf (v : Value) : Except Fault (Value × Value) :=
  match v.items with
  | .error _ =>
    .error (.wrongType "cannot convert dictionary update sequence element to a sequence")
  | .ok [k, w] => if k.isKey then .ok (k, w) else .error (.wrongType "unhashable type")
  | .ok _ => .error (.badValue "dictionary update sequence element has the wrong length")

/-- A mapping given as such or as a list of pairs. -/
def entriesOf (v : Value) : Except Fault (List (Value × Value)) := do
  match v with
  | .map es => return es
  | v => return Value.ofEntries (← (← v.items).mapM pairOf)

/-- The text keys of entries; others cannot name arguments. -/
def namedEntries (es : List (Value × Value)) : Except Fault (List (String × Value)) :=
  es.mapM fun e => match e.1 with
    | .str s => .ok (s, e.2)
    | _ => .error (.wrongType "keywords must be strings")

def transformOf (v : Value) : Except Fault StaticTransform := do
  let es ← namedEntries (← entriesOf v)
  let type := "StaticTransformConfig"
  match es.find? fun e => !StaticTransform.fields.contains e.1 with
  | some e => throw (.wrongType (unexpectedText type e.1))
  | none =>
    match es.lookup "parent", es.lookup "child" with
    | some p, some c =>
      return ⟨p, c, (es.lookup "translation").getD StaticTransform.defaultTranslation,
        (es.lookup "rotation_xyzw").getD StaticTransform.defaultRotation⟩
    | p, c =>
      let names := (if p.isNone then ["parent"] else []) ++ (if c.isNone then ["child"] else [])
      throw (.wrongType (missingText type names))

def transformsOf (v : Value) : Except Fault (List StaticTransform) := do
  (← v.items).mapM transformOf

/-- A number that must be finite and positive. -/
def positiveOf (field : String) (v : Value) : Except Fault Measure := do
  let m ← Measure.ofValue v
  if !m.value.isFinite || m.value ≤ 0.0 then throw (.notPositive field m.value) else return m

/-- A number that must not be negative; one that is not a number passes. -/
def notNegativeOf (v : Value) : Except Fault Measure := do
  let m ← Measure.ofValue v
  if m.value < 0.0 then throw (.negativeMarkerSize v) else return m

/-! ## The whole -/

def defaultOf : String → Value
  | "marker_size_m" => .float 0.6
  | "max_reproj_rmse_px" => .float 2.0
  | "detection_mode" => .str "DM_NORMAL"
  | "min_marker_size" => .float 0.02
  | "map_frame" => .str "map"
  | "base_frame" => .str "base_link"
  | _ => .list []

/-- The configuration of a mapping that has all required fields and no others than it may. -/
def construct (es : List (Value × Value)) : Except Fault Config := do
  let field := fun name => (Value.lookup name es).getD (defaultOf name)
  let targets ← idsOf (field "target_tag_ids")
  let numbers ← numbersOf (field "base_covariance")
  let detectionMode ← DetectionMode.ofValue (field "detection_mode")
  let transforms ← transformsOf (field "static_transforms")
  if targets.isEmpty then throw .noTargets
  let covariance ← Covariance.ofList numbers
  if !covariance.entries.all Float.isFinite then throw .covarianceNotFinite
  let positive := fun name => positiveOf name (field name)
  let markerSize ← positive "marker_size_m"
  let maxError ← positive "max_reproj_rmse_px"
  let distance ← positive "distance_threshold_m"
  let time ← positive "ekf_time_tolerance_s"
  let position ← positive "ekf_position_tolerance_m"
  let minMarkerSize ← notNegativeOf (field "min_marker_size")
  let mapFrame := field "map_frame"
  let baseFrame := field "base_frame"
  if Text.isBlank (← mapFrame.name) then throw .blankFrame
  if Text.isBlank (← baseFrame.name) then throw .blankFrame
  return { targets, covariance, distance, time, position, markerSize, maxError, detectionMode,
           minMarkerSize, mapFrame, baseFrame, transforms }

/-- A wrong type makes the construction fail; other faults stay what they are. -/
def explain (f : Fault) : Fault := if f.kind = .type then .badConfig f.message else f

def missingFields (es : List (Value × Value)) : List String :=
  requiredFields.filter fun name => (Value.lookup name es).isNone

def ofEntries (es : List (Value × Value)) : Except Fault Config :=
  match unknownFault (es.map (·.1)) with
  | some f => .error f
  | none =>
    match missingFields es with
    | [] => (construct es).mapError explain
    | names => .error (.badConfig (missingText "LocalizerConfig" names))

/-- The configuration of a document; an empty one has no entries. -/
def ofDocument : Value → Except Fault Config
  | .null => ofEntries []
  | .map es => ofEntries es
  | v => .error (.configNotMapping v)

/-! ## Back to data -/

def transformEntries (t : StaticTransform) : List (Value × Value) :=
  [(.str "parent", t.parent), (.str "child", t.child), (.str "translation", t.translation),
    (.str "rotation_xyzw", t.rotation)]

/-- The fields of a configuration as it would be written. -/
def toEntries (c : Config) : List (Value × Value) :=
  [(.str "target_tag_ids", .list (c.targets.map .str)),
    (.str "base_covariance", .list (c.covariance.entries.map .float)),
    (.str "distance_threshold_m", c.distance.given),
    (.str "ekf_time_tolerance_s", c.time.given),
    (.str "ekf_position_tolerance_m", c.position.given),
    (.str "marker_size_m", c.markerSize.given),
    (.str "max_reproj_rmse_px", c.maxError.given),
    (.str "detection_mode", .str c.detectionMode.name),
    (.str "min_marker_size", c.minMarkerSize.given),
    (.str "map_frame", c.mapFrame),
    (.str "base_frame", c.baseFrame),
    (.str "static_transforms", .list (c.transforms.map fun t => .map (transformEntries t)))]

end Config
end Fiducial
