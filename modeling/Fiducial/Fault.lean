import Fiducial.Value.Show

/-!
# Faults

A `Fault` is the cause for which an operation gives no result.  Its `kind` tells handlers what
sort of trouble it is: a replay skips an event with a bad value but not one with an overflow.  Its
`message` is the wording shown to people.  Causes that this library finds itself are `explained`;
the others come from converting numbers, arrays and text, or from a service outside.
-/

namespace Fiducial

namespace Fault

inductive Kind where
  | value
  | type
  | key
  | runtime
  | overflow
  | index
  | member
  | recursion
  | decomposition
  | encoding
  | missingFile
  | fileExists
  | isDirectory
  | notDirectory
  | malformed
  | imaging
  /-- A kind that only the service that failed knows. -/
  | other (name : String)
deriving DecidableEq, Repr

/-- The kinds with a name of their own. -/
def Kind.known : List (Kind × String) :=
  [(value, "ValueError"), (type, "TypeError"), (key, "KeyError"), (runtime, "RuntimeError"),
    (overflow, "OverflowError"), (index, "IndexError"), (member, "AttributeError"),
    (recursion, "RecursionError"), (decomposition, "LinAlgError"), (encoding, "UnicodeDecodeError"),
    (missingFile, "FileNotFoundError"), (fileExists, "FileExistsError"),
    (isDirectory, "IsADirectoryError"), (notDirectory, "NotADirectoryError"),
    (malformed, "YAMLError"), (imaging, "CvError")]

/-- The name by which a kind is reported. -/
def Kind.name (k : Kind) : String :=
  match k, known.lookup k with
  | other n, _ => n
  | _, some n => n
  | _, none => ""

def Kind.ofName (name : String) : Kind :=
  match known.find? (·.2 = name) with
  | some p => p.1
  | none => other name

/-- The kinds that are bad values in a wider sense. -/
def Kind.isValue : Kind → Bool
  | value | decomposition | encoding => true
  | _ => false

def Kind.isRuntime : Kind → Bool
  | runtime | recursion => true
  | _ => false

def Kind.isFile : Kind → Bool
  | missingFile | fileExists | isDirectory | notDirectory => true
  | _ => false

end Fault

inductive Fault where
  -- poses and arrays
  | notTransform (name : String) (shape : List Nat)
  | notTransforms (first second : List Nat)
  | badQuaternion (entries : List Float)
  | leftHanded
  | noDecomposition
  | badMarkerSize (v : Value)
  | badCorners
  | unsolved
  | implausiblePose (t : List Float)
  | badImageData
  -- gates, covariance, registry, frames
  | badDistance (v : Value)
  | covarianceSize (n : Nat)
  | duplicateLandmark (id : String)
  | sameFrame (name : String)
  -- configuration
  | badDetectionMode (v : Value)
  | noTargets
  | covarianceNotFinite
  | notPositive (field : String) (x : Float)
  | negativeMarkerSize (v : Value)
  | blankFrame
  | unknownFields (names : List Value)
  | badConfig (reason : String)
  | configNotMapping (v : Value)
  | badLogLevel (v : Value)
  -- landmark map
  | landmarkNotMapping (index : Int)
  | landmarkWithoutId (index : Int)
  | notNumeric (field : String) (v : Value)
  | wrongLength (field : String) (expected actual : Nat)
  | notFinite (field : String)
  | twoOrientations (id : String)
  | badOrientation (reason : String)
  | noMapFile (path : String)
  | badMapFormat (path : String)
  | unreadableMap (path : String)
  | mapNotMapping
  | mapWithoutList
  -- events
  | noEventFile (path : String)
  | badEventLine (path : String) (line : Nat)
  | eventNotMapping (path : String) (line : Nat)
  | missingField (field : String)
  | missingKey (key : Value)
  -- worker
  | workerFailed (cause : Fault)
  | alreadyStarted
  -- conversions
  | badNumber (text : String) (shown : String)
  | notNumber (v : Value)
  | tooLarge
  | overflow
  /-- Nested lists that agree in these lengths only. -/
  | ragged (common : List Nat)
  | tooManyLevels (most : Nat)
  | badReshape (size : Nat) (shape : String)
  | badIndex
  | wrongType (detail : String)
  | badValue (detail : String)
  | noMember (detail : String)
  | tooDeep (detail : String)
  | notUtf8
  | malformedData
  -- files
  | missingFile (path : String)
  | fileExists (path : String)
  | isDirectory (path : String)
  | notDirectory (path : String)
  /-- What a service outside reports: the name of its kind and its words. -/
  | service (kind : Fault.Kind) (message : String)
deriving Inhabited

namespace Fault

def kind : Fault → Kind
  | notTransform .. | notTransforms .. | badQuaternion _ | leftHanded | badMarkerSize _ | badCorners
  | badDistance _ | covarianceSize _ | duplicateLandmark _ | sameFrame _ | badDetectionMode _
  | noTargets | covarianceNotFinite | notPositive .. | negativeMarkerSize _ | blankFrame
  | badConfig _ | badLogLevel _ | badNumber .. | ragged _ | tooManyLevels _ | badReshape ..
  | badValue _ => .value
  | unsolved | implausiblePose _ | landmarkNotMapping _ | landmarkWithoutId _ | notNumeric ..
  | wrongLength .. | notFinite _ | twoOrientations _ | badOrientation _ | noMapFile _
  | badMapFormat _ | unreadableMap _ | mapNotMapping | mapWithoutList | noEventFile _
  | badEventLine .. | eventNotMapping .. | missingField _ | workerFailed _ | alreadyStarted =>
    .runtime
  | unknownFields _ | missingKey _ => .key
  | configNotMapping _ | notNumber _ | wrongType _ => .type
  | tooLarge | overflow => .overflow
  | badIndex => .index
  | noMember _ => .member
  | tooDeep _ => .recursion
  | noDecomposition => .decomposition
  | notUtf8 => .encoding
  | malformedData => .malformed
  | badImageData => .imaging
  | missingFile _ => .missingFile
  | fileExists _ => .fileExists
  | isDirectory _ => .isDirectory
  | notDirectory _ => .notDirectory
  | service k _ => k

/-- Whether the cause was found by a check of this library, which also words it. -/
def explained : Fault → Bool
  | leftHanded | noDecomposition | badImageData | alreadyStarted | badNumber .. | notNumber _
  | tooLarge | overflow | ragged _ | tooManyLevels _ | badReshape .. | badIndex | wrongType _
  | badValue _ | noMember _ | tooDeep _ | notUtf8 | malformedData | missingFile _ | fileExists _
  | isDirectory _ | notDirectory _ | service .. => false
  | _ => true

/-- A shape as a bracketed list; a single length keeps a comma. -/
def shapeText : List Nat → String
  | [n] => "(" ++ digitText n ++ ",)"
  | ns => "(" ++ ", ".intercalate (ns.map digitText) ++ ")"

/-- How a fault of nested lists begins. -/
def sequenceText : String := "setting an array element with a sequence. The requested array "

/-- The wording of a fault; a missing key and the list of unknown fields are shown quoted. -/
def message : Fault → String
  | notTransform name shape => name ++ " must be (4,4), got " ++ shapeText shape
  | notTransforms a b => "A,B must be (4,4), got " ++ shapeText a ++ " and " ++ shapeText b
  | badQuaternion q =>
    "quaternion must be non-zero and finite, got (" ++
      ", ".intercalate (q.map Binary.shortestText) ++ ")"
  | leftHanded =>
    "Non-positive determinant (left-handed or null coordinate frame) in rotation matrix"
  | noDecomposition => "SVD did not converge"
  | badMarkerSize v => "marker_size_m must be positive, got " ++ v.text
  | badCorners => "corners_px contains non-finite values"
  | unsolved => "solvePnP did not converge"
  | implausiblePose t =>
    "implausible marker pose: t=[" ++ ", ".intercalate (t.map Binary.shortestText) ++ "]"
  | badImageData => "bad image data"
  | badDistance v => "distance_m must be a finite non-negative number, got " ++ v.text
  | covarianceSize n => "base_covariance must have 36 elements, got " ++ digitText n
  | duplicateLandmark id => "duplicate landmark id in map: " ++ Text.quoted id
  | sameFrame name => "static transform parent and child must differ, got " ++ Text.quoted name
  | badDetectionMode v =>
    "Invalid detection_mode: " ++ v.literal ++ "（可选：DM_NORMAL,DM_FAST,DM_VIDEO_FAST）"
  | noTargets => "target_tag_ids must not be empty"
  | covarianceNotFinite => "base_covariance must be finite"
  | notPositive field x => field ++ " must be positive, got " ++ Binary.shortestText x
  | negativeMarkerSize v => "min_marker_size must be >= 0, got " ++ v.text
  | blankFrame => "map_frame/base_frame must not be empty"
  | unknownFields names => Text.quoted ("LocalizerConfig 出现未知字段：" ++ (Value.list names).literal)
  | badConfig reason => "LocalizerConfig 构造失败：" ++ reason
  | configNotMapping v => "YAML 根节点必须是 mapping，实际是：" ++ v.kindName
  | badLogLevel v => "unknown log level: " ++ v.literal
  | landmarkNotMapping i => "landmarks[" ++ intText i ++ "] 必须是对象（dict）"
  | landmarkWithoutId i => "landmarks[" ++ intText i ++ "] 缺少 id"
  | notNumeric field v => field ++ " 必须是数值数组，实际为 " ++ v.literal
  | wrongLength field expected actual =>
    field ++ " 长度应为 " ++ digitText expected ++ "，实际为 " ++ digitText actual
  | notFinite field => field ++ " 含非有限数值"
  | twoOrientations id => "landmarks[" ++ id ++ "] 不能同时给出 orientation_xyzw 与 rvec"
  | badOrientation reason => reason
  | noMapFile path => "找不到地标地图文件: " ++ path
  | badMapFormat path => "不支持的地图文件类型: " ++ path ++ "（仅支持 .json/.yaml/.yml）"
  | unreadableMap path => "无法读取地标地图: " ++ path
  | mapNotMapping => "地标地图顶层必须是对象（dict）"
  | mapWithoutList => "地标地图缺少 landmarks 列表"
  | noEventFile path => "找不到事件文件: " ++ path
  | badEventLine path line => path ++ ":" ++ digitText line ++ ": 非法 JSON"
  | eventNotMapping path line => path ++ ":" ++ digitText line ++ ": 事件必须是对象（dict）"
  | missingField field => "事件缺少字段 " ++ field
  | missingKey key => key.literal
  | workerFailed _ => "latest-only worker 线程异常"
  | alreadyStarted => "threads can only be started once"
  | badNumber _ shown => "could not convert string to float: " ++ shown
  | notNumber v =>
    "float() argument must be a string or a real number, not '" ++ v.fullKindName ++ "'"
  | tooLarge => "int too large to convert to float"
  | overflow => "numerical result out of range"
  | ragged s =>
    sequenceText ++ "has an inhomogeneous shape after " ++ digitText s.length ++
      " dimensions. The detected shape was " ++ shapeText s ++ " + inhomogeneous part."
  | tooManyLevels n =>
    sequenceText ++ "would exceed the maximum number of dimension of " ++ digitText n ++ "."
  | badReshape size shape =>
    "cannot reshape array of size " ++ digitText size ++ " into shape " ++ shape
  | badIndex => "too many indices for array"
  | wrongType detail => detail
  | badValue detail => detail
  | noMember detail => detail
  | tooDeep detail => detail
  | notUtf8 => "'utf-8' codec can't decode bytes"
  | malformedData => "malformed YAML"
  | missingFile path => "[Errno 2] No such file or directory: " ++ Text.quoted path
  | fileExists path => "[Errno 17] File exists: " ++ Text.quoted path
  | isDirectory path => "[Errno 21] Is a directory: " ++ Text.quoted path
  | notDirectory path => "[Errno 20] Not a directory: " ++ Text.quoted path
  | service k m => if k = .key then Text.quoted m else m

/-- A fault in one phrase: its kind and, in brackets, its quoted words. -/
def phrase (f : Fault) : String :=
  let words := match f with
    | service _ m => m
    | _ => f.message
  f.kind.name ++ "(" ++ Text.quoted words ++ ")"

end Fault
end Fiducial
