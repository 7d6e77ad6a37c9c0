import ClaExemption.Proofs.Json.Accepted
import ClaExemption.Proofs.Json.Scalars

/-!
# Values are read as they are written

`Value.node` is the tree of a value. The text that is written for a value spells
this tree (`Value.spells`), by recursion on the value, so that reading the text
gives just the tree, with nothing left over (`Node.read_render`).
-/

namespace ClaExemption.Json

mutual

/-- The tree of a value. -/
def Value.node : Value → Node
  | .null => .null
  | .bool b => .bool b
  | .int n => .number (.ofInt n)
  | .text s => .text (.ok s)
  | .array items => .array (Value.nodesOfItems items) none
  | .object members => .object (Value.nodesOfMembers members) none

/-- The trees of items. -/
def Value.nodesOfItems : List Value → List Node
  | [] => []
  | item :: items => item.node :: Value.nodesOfItems items

/-- The names and trees of members. -/
def Value.nodesOfMembers : List (String × Value) → List (Except Fault String × Node)
  | [] => []
  | (name, value) :: members => (.ok name, value.node) :: Value.nodesOfMembers members

end

theorem Value.nodesOfItems_eq_map (items : List Value) : nodesOfItems items = items.map node := by
  induction items with
  | nil => rfl
  | cons item items ih => rw [nodesOfItems, ih, List.map_cons]

theorem Value.nodesOfMembers_eq_map (members : List (String × Value)) :
    nodesOfMembers members = members.map fun (name, value) => (.ok name, value.node) := by
  induction members with
  | nil => rfl
  | cons member members ih => rw [nodesOfMembers, ih, List.map_cons]

theorem spells_intChars (n : Int) (rest : List Glyph) :
    Spells (.value (.number (.ofInt n))) ((intChars n).map some ++ rest) rest := by
  have number := unsigned_toDigits (decide (n < 0)) n.natAbs rest
  unfold intChars
  split
  · next neg => exact .negative (decide_eq_true neg) number
  · next pos => exact .positive (decide_eq_false pos) number

theorem spells_quote (s : String) (rest : List Glyph) :
    Spells (.value (.text (.ok s))) ((quote s).map some ++ rest) rest := by
  rw [← contentOf_escaped s rest]
  exact .text (content_escaped s.toList rest)

theorem map_some_append (cs cs' : List Char) (rest : List Glyph) :
    (cs ++ cs').map some ++ rest = cs.map some ++ (cs'.map some ++ rest) := by
  rw [List.map_append, List.append_assoc]

/-- A member, from the quote of its name on. -/
theorem map_some_member (name : String) (cs : List Char) (rest : List Glyph) :
    (quote name ++ ':' :: cs).map some ++ rest =
      some '"' :: ((name.toList.flatMap escapeChar ++ ['"']).map some ++
        some ':' :: (cs.map some ++ rest)) :=
  map_some_append (quote name) (':' :: cs) rest

mutual

/-- The text of a value spells its tree, whatever follows it. -/
theorem Value.spells (v : Value) (rest : List Glyph) :
    Spells (.value v.node) (v.chars.map some ++ rest) rest := by
  match v with
  | .null => exact .null
  | .bool true => exact .yes
  | .bool false => exact .no
  | .int n => exact spells_intChars n rest
  | .text s => exact spells_quote s rest
  | .array [] => exact .emptyArray .none
  | .array (item :: items) =>
    show Spells _ (some '[' :: ((item.chars ++ charsOfItems items).map some ++ rest)) rest
    rw [map_some_append]
    exact .array (Value.spells_items items (item.spells _))
  | .object [] => exact .emptyObject .none
  | .object ((name, value) :: members) =>
    show Spells _ (some '\x7b' ::
      ((quote name ++ ':' :: (value.chars ++ charsOfMembers members)).map some ++ rest)) rest
    rw [map_some_member, map_some_append value.chars]
    exact .object .none (Value.spells_members members name (value.spells _))

/-- The items after one that is spelled. -/
theorem Value.spells_items (items : List Value) {v : Node} {s rest : List Glyph}
    (first : Spells (.value v) s ((charsOfItems items).map some ++ rest)) :
    Spells (.items (v :: nodesOfItems items)) s rest := by
  match items with
  | [] => exact .lastItem .none first .none
  | item :: items =>
    show Spells (.items (v :: item.node :: nodesOfItems items)) s rest
    have next := Value.spells_items items (item.spells ((charsOfItems items).map some ++ rest))
    rw [← map_some_append] at next
    exact .nextItem .none first .none next

/-- The members after one whose value is spelled. -/
theorem Value.spells_members (members : List (String × Value)) (name : String) {v : Node}
    {s rest : List Glyph}
    (first : Spells (.value v) s ((charsOfMembers members).map some ++ rest)) :
    Spells (.members ((.ok name, v) :: nodesOfMembers members))
      ((name.toList.flatMap escapeChar ++ ['"']).map some ++ some ':' :: s) rest := by
  have content := content_escaped name.toList (some ':' :: s)
  rw [← contentOf_escaped name (some ':' :: s)]
  match members with
  | [] => exact .lastMember content .none .none first .none
  | (name', value) :: members =>
    have others :=
      Value.spells_members members name' (value.spells ((charsOfMembers members).map some ++ rest))
    have opening := map_some_member name' (value.chars ++ charsOfMembers members) rest
    rw [map_some_append value.chars] at opening
    refine .nextMember content .none .none first .none ?_ others
    show Spaces ((quote name' ++ ':' :: (value.chars ++ charsOfMembers members)).map some ++ rest) _
    rw [opening]
    exact .none

end

/-- The text of a value is read as its tree, and nothing is left over. -/
theorem Node.read_render (v : Value) : Node.read (glyphsOfText v.render) = (v.node, true) := by
  have spelled := v.spells []
  rw [List.append_nil] at spelled
  rw [glyphsOfText, Value.render, String.toList_ofList]
  exact IsSpelled.read_eq ⟨_, _, .none, spelled, .none⟩

end ClaExemption.Json
