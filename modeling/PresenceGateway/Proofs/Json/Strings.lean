import PresenceGateway.Json.Document
import PresenceGateway.Proofs.Text.Utf8
/-!
A text is read back from the units in which it is written, so that different texts are written
differently. The escaped controls are no surrogates and stand for themselves.
-/
namespace PresenceGateway.Json.StringUnits

/-- An escaped unit that is no surrogate is a character of its own, whatever follows it. -/
theorem bytesOnto_escaped {unit : Nat} (plain : unit < 0xD800) (done : List UInt8)
    (rest : StringUnits) :
    bytesOnto done (.escaped unit :: rest) =
      bytesOnto ((String.utf8EncodeChar (Char.ofNat unit)).reverse ++ done) rest := by
  have noSurrogate : ¬ (0xD800 ≤ unit ∧ unit ≤ 0xDFFF) := by omega
  cases rest with
  | nil => simp only [bytesOnto, if_neg noSurrogate]
  | cons next rest =>
      cases next with
      | byte b => simp only [bytesOnto, if_neg noSurrogate]
      | escaped low => simp only [bytesOnto, if_neg noSurrogate]

theorem bytesOnto_bytes (done bytes : List UInt8) (rest : StringUnits) :
    bytesOnto done (bytes.map .byte ++ rest) = bytesOnto (bytes.reverse ++ done) rest := by
  induction bytes generalizing done with
  | nil => rfl
  | cons b more ih =>
      rw [List.map_cons, List.cons_append, bytesOnto, ih, List.reverse_cons, List.append_assoc,
        List.singleton_append]

theorem bytesOnto_ofChar (done : List UInt8) (c : Char) (rest : StringUnits) :
    bytesOnto done (ofChar c ++ rest) =
      bytesOnto ((String.utf8EncodeChar c).reverse ++ done) rest := by
  unfold ofChar
  dsimp only
  split
  · rename_i control
    have small : c.toNat < 0xD800 := by
      simp only [Bool.and_eq_true, decide_eq_true_eq] at control
      omega
    rw [List.singleton_append, bytesOnto_escaped small, Char.ofNat_toNat]
  · exact bytesOnto_bytes done _ rest

theorem bytesOnto_flatMap (done : List UInt8) (cs : List Char) :
    bytesOnto done (cs.flatMap ofChar) =
      some ((cs.flatMap String.utf8EncodeChar).reverse ++ done) := by
  induction cs generalizing done with
  | nil => rfl
  | cons c rest ih =>
      rw [List.flatMap_cons, List.flatMap_cons, bytesOnto_ofChar, ih, List.reverse_append,
        List.append_assoc]

theorem text?_ofText (text : String) : (ofText text).text? = some text := by
  rw [text?, ofText, bytesOnto_flatMap, List.append_nil, Option.bind_some, List.reverse_reverse]
  exact Text.Utf8.decode?_encode text

theorem ofText_injective {first second : String} (same : ofText first = ofText second) :
    first = second := by
  have read := congrArg text? same
  rw [text?_ofText, text?_ofText] at read
  exact Option.some.inj read

end PresenceGateway.Json.StringUnits
