import OtelC.Logs.Value

/-!
# The structural pass over a value pool

Nothing is converted before the whole pool has been checked: tags and payloads, the ranges of the
containers, their keys, and that every node has exactly one owner.  The owners claim nodes in an
ascending pass; a descending pass then computes heights.
-/

namespace OtelC.Logs

/-- Height and ownership of a node.  Heights are `u32` in the source; a pool has at most
`maxValueNodes` nodes there, and `chain_le` bounds the heights by that. -/
structure NodeInfo where
  depth : Nat
  referenced : Bool
  deriving DecidableEq

/-- `Validator::new`. -/
def newInfo (nodes : List OtelLogValueNode) : List NodeInfo :=
  List.replicate nodes.length ⟨1, false⟩

/-- `usize::MAX` on a 64-bit target. -/
def usizeMax : Nat := 2 ^ 64 - 1

/-! ### The checks -/

/-- `check_value_scalar`. -/
def checkValueScalar (value : OtelLogValue) : Except Fail OtelLogValueType :=
  if value.reserved ≠ 0 then fail .invalidArgument "log value reserved field must be zero"
  else match value.tag with
    | none => fail .invalidArgument "log value has an unknown value_type tag"
    | some .empty =>
      fail .invalidArgument "an empty log value is only valid as an absent record body"
    | some .string => do
      let s ← asStr value.value.stringValue
      if s.len > maxStringLen then
        fail .invalidArgument "log string value exceeds the maximum supported length"
      else .ok .string
    | some .bytes => do
      let b ← asSlice value.value.bytesValue
      if b.length > maxBytesLen then
        fail .invalidArgument "log bytes value exceeds the maximum supported length"
      else .ok .bytes
    | some tag => .ok tag

/-- The loop of `claim_children`. -/
def claimNodes (info : List NodeInfo) : List Nat → Except Fail (List NodeInfo)
  | [] => .ok info
  | i :: rest => do
    let node ← index info i
    if node.referenced then fail .invalidArgument "log value node is referenced more than once"
    else claimNodes (info.set i { node with referenced := true }) rest

/-- `claim_children`; the owner is `none` for a root. -/
def claimChildren (nodes : List OtelLogValueNode) (info : List NodeInfo) (tag : OtelLogValueType)
    (value : OtelLogValue) (owner : Option Nat) : Except Fail (List Nat × List NodeInfo) :=
  let first := value.value.children.first.toNat
  let count := value.value.children.count.toNat
  let limit := if tag = .map then maxMapEntries else maxArrayElements
  if count > limit then
    fail .invalidArgument "log container exceeds the maximum supported element count"
  else if count = 0 then .ok ([], info)
  else if first + count > usizeMax then
    fail .invalidArgument "log container child range overflows"
  else if first + count > nodes.length then
    fail .invalidArgument "log container child range is outside the node pool"
  else if owner.any (first ≤ ·) then
    fail .invalidArgument "log container children must live at a strictly greater pool index"
  else do
    let info ← claimNodes info value.value.children.indices
    .ok (value.value.children.indices, info)

inductive NodeRole where
  | arrayElement
  | mapEntry
  deriving DecidableEq

/-- `check_child_key`. -/
def checkChildKey (nodes : List OtelLogValueNode) (i : Nat) (role : NodeRole) :
    Except Fail (Option Str) := do
  let node ← index nodes i
  let key ← asStr node.key
  match role with
  | .arrayElement =>
    if ¬key.isEmpty then fail .invalidArgument "array element nodes must have an empty key"
    else .ok none
  | .mapEntry =>
    if key.isEmpty then fail .invalidArgument "map entry nodes must have a non-empty key"
    else if key.len > maxStringLen then
      fail .invalidArgument "map entry key exceeds the maximum supported length"
    else .ok (some key)

/-- The loop of `check_children` with the keys seen so far. -/
def checkKeys (nodes : List OtelLogValueNode) (role : NodeRole) :
    List Nat → List Str → Except Fail Unit
  | [], _ => .ok ()
  | i :: rest, seen => do
    match ← checkChildKey nodes i role with
    | none => checkKeys nodes role rest seen
    | some key =>
      if key ∈ seen then fail .invalidArgument "duplicate key in a log map value"
      else checkKeys nodes role rest (seen ++ [key])

/-- `check_children`. -/
def checkChildren (nodes : List OtelLogValueNode) (tag : OtelLogValueType) (range : List Nat) :
    Except Fail Unit :=
  checkKeys nodes (if tag = .map then .mapEntry else .arrayElement) range []

/-- What `validate` does with one value of the pool or one root. -/
def checkValue (nodes : List OtelLogValueNode) (info : List NodeInfo)
    (visit : Option Nat × OtelLogValue) : Except Fail (List NodeInfo) := do
  let tag ← checkValueScalar visit.2
  if tag.IsContainer then
    let (range, info) ← claimChildren nodes info tag visit.2 visit.1
    checkChildren nodes tag range
    .ok info
  else .ok info

/-- The ascending pass over values with their owners. -/
def checkAll (nodes : List OtelLogValueNode) (info : List NodeInfo) :
    List (Option Nat × OtelLogValue) → Except Fail (List NodeInfo)
  | [] => .ok info
  | visit :: rest => do
    let info ← checkValue nodes info visit
    checkAll nodes info rest

/-- The greatest height in a range. -/
def childDepth (info : List NodeInfo) : List Nat → Nat → Except Fail Nat
  | [], depth => .ok depth
  | child :: rest, depth => do
    let node ← index info child
    childDepth info rest (max depth node.depth)

/-- One step of the descending pass. -/
def setDepth (info : List NodeInfo) (i : Nat) (value : OtelLogValue) :
    Except Fail (List NodeInfo) :=
  if value.tag = some .array ∨ value.tag = some .map then do
    let depth ← childDepth info value.value.children.indices 0
    let node ← index info i
    .ok (info.set i { node with depth := depth + 1 })
  else .ok info

/-- The descending pass over the indices below a bound. -/
def setDepths (nodes : List OtelLogValueNode) : Nat → List NodeInfo → Except Fail (List NodeInfo)
  | 0, info => .ok info
  | i + 1, info => do
    let node ← index nodes i
    let info ← setDepth info i node.value
    setDepths nodes i info

/-- `root_depth`. -/
def rootDepth (info : List NodeInfo) (root : OtelLogValue) : Except Fail Nat :=
  if root.tag = some .array ∨ root.tag = some .map then do
    let depth ← childDepth info root.value.children.indices 0
    .ok (depth + 1)
  else .ok 1

/-- The roots' heights against the limit. -/
def checkDepths (info : List NodeInfo) : List OtelLogValue → Except Fail Unit
  | [] => .ok ()
  | root :: rest => do
    let depth ← rootDepth info root
    if depth > maxValueDepth then
      fail .invalidArgument "log value nesting exceeds the maximum supported depth"
    else checkDepths info rest

/-- The values of the pool with their indices as owners. -/
def poolVisits (nodes : List OtelLogValueNode) : List (Option Nat × OtelLogValue) :=
  nodes.zipIdx.map fun (node, i) => (some i, node.value)

/-- The root values, which may address any part of the pool. -/
def rootVisits (roots : List OtelLogValue) : List (Option Nat × OtelLogValue) :=
  roots.map fun root => (none, root)

/-- `Validator::validate`, from `Validator::new`; the result is the final state of `info`. -/
def validate (nodes : List OtelLogValueNode) (roots : List OtelLogValue) :
    Except Fail (List NodeInfo) := do
  let info ← checkAll nodes (newInfo nodes) (poolVisits nodes)
  let info ← checkAll nodes info (rootVisits roots)
  match info.findIdx? fun node => !node.referenced with
  | some i =>
    fail .invalidArgument s!"log value node {i} is not referenced by any container or root"
  | none => do
    let info ← setDepths nodes nodes.length info
    checkDepths info roots
    .ok info

end OtelC.Logs
