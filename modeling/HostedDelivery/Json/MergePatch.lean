import HostedDelivery.Json.Basic

/-!
# Merge patches

`Json.mergePatch` applies a JSON merge patch: a patch that is an object changes the members that it names, of which
null removes one, and any other patch replaces the target. `Json.mergePatchDelta` finds the patch that leads from
one value to another; it is none when the values are the same.
-/

namespace HostedDelivery.Json

mutual

/-- The target with a merge patch applied. A target that is no object counts as an empty one for a patch that is. -/
def mergePatch (target patch : Json) : Json :=
  match patch with
  | .obj ms => .obj (mergeMembers target.members ms)
  | other => other
termination_by structural patch

/-- The members of a target after each member of a patch in turn. -/
def mergeMembers (target : Dict Json) (patch : List (String × Json)) : Dict Json :=
  match patch with
  | [] => target
  | m :: ms => mergeMembers (mergeMember target m) ms
termination_by structural patch

/-- The members of a target after one member of a patch. -/
def mergeMember (target : Dict Json) (patch : String × Json) : Dict Json :=
  match patch with
  | (key, .null) => Dict.erase target key
  | (key, value) => Dict.insert target key (mergePatch ((Dict.find? target key).getD .null) value)
termination_by structural patch

end

mutual

/-- The merge patch that leads from `old` to `new`, or none when they are the same. Only objects are compared
member by member; anything else is replaced whole. -/
def mergePatchDelta (old new : Json) : Option Json :=
  match new with
  | .obj ms =>
    if Same old (.obj ms) then none
    else match old with
      | .obj olds =>
        let gone := (olds.filter fun m => (Dict.find? ms m.1).isNone).map fun m => (m.1, Json.null)
        some (.obj (gone.foldl (fun d m => Dict.insert d m.1 m.2) (deltaMembers olds ms)))
      | _ => some (.obj ms)
  | other => if Same old other then none else some other
termination_by structural new

/-- What a patch has to say of the members of `new`: those that `old` lacks, and the changes of the others. -/
def deltaMembers (old : Dict Json) (new : List (String × Json)) : Dict Json :=
  match new with
  | [] => []
  | m :: ms =>
    match deltaMember old m with
    | some v => (m.1, v) :: deltaMembers old ms
    | none => deltaMembers old ms
termination_by structural new

/-- What a patch has to say of one member of `new`. -/
def deltaMember (old : Dict Json) (new : String × Json) : Option Json :=
  match new with
  | (key, value) =>
    match Dict.find? old key with
    | some oldValue => mergePatchDelta oldValue value
    | none => some value
termination_by structural new

end

end HostedDelivery.Json
