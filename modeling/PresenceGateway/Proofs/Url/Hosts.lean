import PresenceGateway.Proofs.Text.Composition
import PresenceGateway.Proofs.Text.Utf8
import PresenceGateway.Url.Host
/-!
Colons in host names. A colon outside brackets comes through percent decoding, UTF-8, the replacement
of characters and their composition, and no name may hold one, so a text with a colon is a host only
in brackets.
-/
namespace PresenceGateway

/-! ### Bytes -/

namespace Text.Utf8

theorem mem_of_tails {count low high bits : Nat} {bytes left : List UInt8} {c : Char} {b : UInt8}
    (above : 0x80 ≤ low) (small : b.toNat < 0x80)
    (read : tails count low high bits bytes = (some c, left)) (inside : b ∈ bytes) : b ∈ left := by
  induction bytes generalizing count low high bits with
  | nil => cases inside
  | cons next rest ih =>
      cases count with
      | zero =>
          rw [tails, Prod.mk.injEq] at read
          exact read.2 ▸ inside
      | succ count =>
          rw [tails] at read
          split at read
          · rename_i within
            refine ih (Nat.le_refl _) read ?_
            rcases List.mem_cons.mp inside with rfl | later
            · omega
            · exact later
          · cases read

theorem low_of_lead? {n : Nat} {lead : Lead} (found : lead? n = some lead) : 0x80 ≤ lead.low := by
  unfold lead? at found
  repeat' split at found
  all_goals cases found
  all_goals exact Nat.le_of_ble_eq_true rfl

/-- A byte of ASCII is the next character, or it is left. -/
theorem mem_of_front {b next : UInt8} {rest left : List UInt8} {c : Char} (small : b.toNat < 0x80)
    (read : front next rest = (some c, left)) (inside : b ∈ next :: rest) :
    c = Char.ofNat b.toNat ∨ b ∈ left := by
  unfold front at read
  split at read
  · rw [Prod.mk.injEq, Option.some.injEq] at read
    obtain ⟨rfl, rfl⟩ := read
    rcases List.mem_cons.mp inside with rfl | later
    · exact .inl rfl
    · exact .inr later
  · rename_i large
    split at read
    · cases read
    · rename_i lead found
      refine .inr (mem_of_tails (low_of_lead? found) small read ?_)
      rcases List.mem_cons.mp inside with rfl | later
      · exact absurd small large
      · exact later

theorem mem_of_decodeOnto {b : UInt8} {done cs : List Char} {bytes : List UInt8}
    (small : b.toNat < 0x80) (read : decodeOnto done bytes = some cs) :
    (∀ c ∈ done, c ∈ cs) ∧ (b ∈ bytes → Char.ofNat b.toNat ∈ cs) := by
  induction done, bytes using decodeOnto.induct with
  | case1 done =>
      rw [decodeOnto, Option.some.injEq] at read
      subst read
      exact ⟨fun c => List.mem_reverse.mpr, fun inside => by cases inside⟩
  | case2 done next rest c found ih =>
      rw [decodeOnto, found] at read
      obtain ⟨kept, later⟩ := ih read
      refine ⟨fun other inside => kept other (List.mem_cons_of_mem _ inside), fun inside => ?_⟩
      rcases mem_of_front small (Prod.ext found rfl) inside with rfl | left
      · exact kept _ List.mem_cons_self
      · exact later left
  | case3 done next rest none =>
      rw [decodeOnto, none] at read
      cases read

end Text.Utf8

namespace Url

theorem ne_colon_of_hexValue? {b : UInt8} {n : Nat} (found : hexValue? b = some n) : b ≠ 0x3A := by
  rintro rfl
  cases found

theorem colon_mem_decodeBytes {bytes : List UInt8} (inside : 0x3A ∈ bytes) :
    0x3A ∈ decodeBytes bytes := by
  induction bytes using decodeBytes.induct with
  | case1 => cases inside
  | case2 a b rest high low foundHigh foundLow ih =>
      rw [decodeBytes, foundHigh, foundLow]
      dsimp only
      have noHigh := ne_colon_of_hexValue? foundHigh
      have noLow := ne_colon_of_hexValue? foundLow
      simp only [List.mem_cons, noHigh.symm, noLow.symm, false_or] at inside
      rcases inside with percent | later
      · cases percent
      · exact List.mem_cons_of_mem _ (ih later)
  | case3 a b rest none ih =>
      have stays : decodeBytes (0x25 :: a :: b :: rest) = 0x25 :: decodeBytes (a :: b :: rest) := by
        rw [decodeBytes]
        split
        · rename_i high low foundHigh foundLow
          exact absurd foundLow (none high low foundHigh)
        · rfl
      rw [stays]
      rcases List.mem_cons.mp inside with percent | later
      · cases percent
      · exact List.mem_cons_of_mem _ (ih later)
  | case4 b rest other ih =>
      rw [decodeBytes]
      · rcases List.mem_cons.mp inside with rfl | later
        · exact List.mem_cons_self
        · exact List.mem_cons_of_mem _ (ih later)
      · exact other

theorem exists_of_mapM {name : List Char} {parts : List (List Char)} {c : Char}
    (replaced : name.mapM replacement? = some parts) (inside : c ∈ name) :
    ∃ part ∈ parts, replacement? c = some part := by
  induction name generalizing parts with
  | nil => cases inside
  | cons first rest ih =>
      rw [List.mapM_cons] at replaced
      obtain ⟨part, here, more⟩ := Option.bind_eq_some_iff.mp replaced
      obtain ⟨others, there, same⟩ := Option.bind_eq_some_iff.mp more
      cases same
      rcases List.mem_cons.mp inside with rfl | later
      · exact ⟨part, List.mem_cons_self, here⟩
      · obtain ⟨found, listed, replacement⟩ := ih there later
        exact ⟨found, List.mem_cons_of_mem _ listed, replacement⟩

theorem asciiName?_of_colon {name : List Char} (colon : ':' ∈ name) : asciiName? name = none := by
  have refused : foldName? name = none := by
    unfold foldName?
    cases replaced : name.mapM replacement? with
    | none => rfl
    | some parts =>
        obtain ⟨part, listed, same⟩ := exists_of_mapM replaced colon
        have itself : part = [':'] := (Option.some.inj same).symm
        have inside : ':' ∈ parts.flatten :=
          List.mem_flatten.mpr ⟨part, listed, itself ▸ List.mem_cons_self⟩
        have kept := Text.inert_colon.mem_compose inside
        rw [Option.map_some, Option.filter_eq_none_iff]
        intro folded same fits
        rw [← Option.some.inj same, List.all_eq_true] at fits
        exact absurd (fits ':' kept) (by decide)
  rw [asciiName?, refused]
  rfl

end Url

/-! ### Hosts -/

/-- A text with a colon is a host only in brackets. -/
theorem Host.shape_of_colon {text : List Char} {host : Host} (read : Host.read text = .ok host)
    (colon : ':' ∈ text) : ∃ inner, text = '[' :: inner ++ [']'] := by
  unfold Host.read at read
  split at read
  · rename_i inner
    split at read
    · rename_i address shape
      refine ⟨address.reverse, ?_⟩
      rw [List.cons_append, ← List.reverse_cons, ← shape, List.reverse_reverse]
    · cases read
  · have bytes : 0x3A ∈ Url.decodeBytes (Text.Utf8.encode (String.ofList text)) := by
      apply Url.colon_mem_decodeBytes
      rw [Text.Utf8.encode, String.toList_ofList, List.mem_flatMap]
      exact ⟨':', colon, by decide⟩
    have refused : ((Text.Utf8.decode? (Url.decodeBytes (Text.Utf8.encode (String.ofList text)))).bind
        fun name => Url.asciiName? name.toList) = none := by
      rw [Option.bind_eq_none_iff]
      intro name decoded
      obtain ⟨cs, onto, rfl⟩ := Option.map_eq_some_iff.mp decoded
      rw [String.toList_ofList]
      exact Url.asciiName?_of_colon
        ((Text.Utf8.mem_of_decodeOnto (by decide) onto).2 bytes)
    dsimp only at read
    rw [refused] at read
    cases read

end PresenceGateway
