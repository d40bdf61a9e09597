import PresenceGateway.Proofs.Url.Form
import PresenceGateway.Proofs.Url.Names
/-!
What is read of a request target. A station cuts it at the first question mark; what is before is a
path, and what follows are form-encoded pairs. So the target of an address of plain names, to which
pairs were appended, is read as these names and these pairs, whatever characters the pairs hold.
-/
namespace PresenceGateway

namespace Url

/-- A character that may stand in a request target: visible, in ASCII, and no number sign. -/
def isTargetChar (c : Char) : Bool :=
  0x20 < c.toNat && c.toNat < 0x7F && c != '#'

def readTarget (target : String) : String × List (String × String) :=
  let (path, query) := Text.cutChars '?' target.toList
  (String.ofList path, Form.decode (String.ofList (query.getD [])))

theorem isTargetChar_of_isPathChar {c : Char} (plain : isPathChar c = true) :
    isTargetChar c = true :=
  forall_isPathChar (fun c => isTargetChar c = true) (by decide +kernel) plain

/-! ### Encoded pairs -/

theorem isTargetChar_of_mem_encodeByte {b : UInt8} {c : Char} (inside : c ∈ Form.encodeByte b) :
    isTargetChar c = true := by
  have each : ∀ n : Fin 256, (Form.encodeByte (UInt8.ofNat n)).all isTargetChar = true := by
    decide +kernel
  have here := each ⟨b.toNat, b.toNat_lt⟩
  dsimp only at here
  rw [UInt8.ofNat_toNat] at here
  exact List.all_eq_true.mp here c inside

theorem isTargetChar_of_mem_encodePair {pair : String × String} {c : Char}
    (inside : c ∈ Form.encodePair pair) : isTargetChar c = true := by
  have text (text : String) (among : c ∈ Form.encodeText text) : isTargetChar c = true := by
    obtain ⟨b, _, here⟩ := List.mem_flatMap.mp among
    exact isTargetChar_of_mem_encodeByte here
  rcases List.mem_append.mp inside with name | rest
  · exact text _ name
  · rcases List.mem_cons.mp rest with rfl | value
    · decide
    · exact text _ value

theorem isTargetChar_of_mem_encode {pairs : List (String × String)} {c : Char}
    (inside : c ∈ Form.encode pairs) : isTargetChar c = true := by
  induction pairs with
  | nil => cases inside
  | cons first rest ih =>
      cases rest with
      | nil => exact isTargetChar_of_mem_encodePair inside
      | cons second later =>
          rw [Form.encode] at inside
          · rcases List.mem_append.mp inside with here | after
            · exact isTargetChar_of_mem_encodePair here
            · rcases List.mem_cons.mp after with rfl | later
              · decide
              · exact ih later
          · exact List.cons_ne_nil _ _

/-! ### Addresses of names -/

theorem toList_text_of_names (names : List String) :
    (Path.text (.segments names)).toList = names.flatMap fun name => '/' :: name.toList := by
  rw [Path.text, String.toList_join, List.flatMap_map]
  congr 1
  funext name
  rw [String.toList_append]
  rfl

section Names

variable {place : Url} {names : List String} (path : place.path = .segments names)
  (bare : place.query = none) (all : ∀ name ∈ names, IsName name)

include all in
theorem isPathChar_of_mem_names {c : Char} (inside : c ∈ (Path.text (.segments names)).toList) :
    isPathChar c = true := by
  rw [toList_text_of_names] at inside
  obtain ⟨name, listed, here⟩ := List.mem_flatMap.mp inside
  rcases List.mem_cons.mp here with rfl | among
  · decide
  · exact isPathChar_of_isNameChar ((all name listed).plain c among)

include path bare

theorem target_appendPairs (pairs : List (String × String)) :
    (place.appendPairs pairs).target.toList =
      (Path.text (.segments names)).toList ++ '?' :: Form.encode pairs := by
  unfold target appendPairs
  rw [path, bare]
  dsimp only
  rw [String.toList_append, String.toList_append]
  exact congrArg (_ ++ '?' :: ·) String.toList_ofList

include all

/-- The pairs that were appended are read, and the path of the names. -/
theorem readTarget_appendPairs (pairs : List (String × String)) :
    readTarget (place.appendPairs pairs).target = (Path.text (.segments names), pairs) := by
  have noMark : '?' ∉ (Path.text (.segments names)).toList :=
    notMem_of_plain (fun c => isPathChar_of_mem_names all) (by decide)
  unfold readTarget
  rw [target_appendPairs path bare, Text.cutChars_append noMark]
  dsimp only
  rw [Option.getD_some, Form.decode_encode, String.ofList_toList]

theorem isTargetChar_of_mem_target {pairs : List (String × String)} {c : Char}
    (inside : c ∈ (place.appendPairs pairs).target.toList) : isTargetChar c = true := by
  rw [target_appendPairs path bare] at inside
  rcases List.mem_append.mp inside with name | rest
  · exact isTargetChar_of_isPathChar (isPathChar_of_mem_names all name)
  · rcases List.mem_cons.mp rest with rfl | encoded
    · decide
    · exact isTargetChar_of_mem_encode encoded

end Names

end Url

end PresenceGateway
