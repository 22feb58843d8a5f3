import Backoffice.Json.Decode
import Backoffice.Json.Writer

namespace Backoffice.Json

theorem hexDigit?_hexDigit (n : Nat) : Reader.hexDigit? (hexDigit n) = some (n % 16) := by
  have h : ∀ m < 16, Reader.hexDigit? (Nat.digitChar m) = some m := by decide
  exact h _ (Nat.mod_lt n (by decide))

theorem unicodeEscape_control {n : Nat} (hn : n < 0x20) (cs : List Char) :
    Reader.unicodeEscape ('0' :: '0' :: hexDigit (n / 16) :: hexDigit n :: cs) =
      some (some (Char.ofNat n), cs) := by
  have h₀ : Reader.hexDigit? '0' = some 0 := by decide
  have h : Reader.hexUnit ('0' :: '0' :: hexDigit (n / 16) :: hexDigit n :: cs) = some (n, cs) := by
    simp only [Reader.hexUnit, h₀, hexDigit?_hexDigit, Option.bind_eq_bind, Option.bind_some,
      Option.pure_def, Option.some.injEq, Prod.mk.injEq, and_true]
    omega
  have hh : Reader.isHighHalf n = false := by simp [Reader.isHighHalf]; omega
  have hl : Reader.isLowHalf n = false := by simp [Reader.isLowHalf]; omega
  simp [Reader.unicodeEscape, h, hh, hl]

/-- A character is read back from the way it stands in a string, in one step. -/
theorem characters_escape (c : Char) (n : Nat) (cs : List Char) :
    Reader.characters (n + 1) (escape c ++ cs) =
      (Reader.characters n cs).map fun p ↦ (some c :: p.1, p.2) := by
  unfold escape
  split
  case h_8 c hq hb h₁ h₂ h₃ h₄ h₅ =>
    split
    case isTrue h =>
      cases hr : Reader.characters n cs <;>
        simp [Reader.characters, unicodeEscape_control h, hr]
    case isFalse h =>
      cases hr : Reader.characters n cs <;>
        simp_all [Reader.characters]
  all_goals
    cases hr : Reader.characters n cs <;> simp [Reader.characters, Reader.shortEscape?, hr]

theorem characters_flatMap_escape (cs rest : List Char) (n : Nat) (hn : cs.length < n) :
    Reader.characters n (cs.flatMap escape ++ '"' :: rest) = some (cs.map some, rest) := by
  induction cs generalizing n with
  | nil =>
    obtain ⟨n, rfl⟩ := Nat.exists_eq_add_of_lt hn
    simp [Reader.characters]
  | cons c cs ih =>
    cases n with
    | zero => simp at hn
    | succ n =>
      have hr := ih n (by simpa using hn)
      rw [List.flatMap_cons, List.append_assoc, characters_escape, hr]
      simp

/-- A written text is read back in at most as many steps as it has characters. -/
theorem string_writeString (s : String) (rest : List Char) (n : Nat) (hn : s.toList.length < n) :
    Reader.string n (s.toList.flatMap escape ++ '"' :: rest) = some (some s, rest) := by
  simp [Reader.string, characters_flatMap_escape s.toList rest n hn, List.filterMap_map]

theorem length_le_length_flatMap_escape (cs : List Char) :
    cs.length ≤ (cs.flatMap escape).length := by
  induction cs with
  | nil => simp
  | cons c cs ih =>
    have hc : 1 ≤ (escape c).length := by
      unfold escape
      repeat' split
      all_goals simp
    simp only [List.flatMap_cons, List.length_append, List.length_cons]
    omega

theorem length_le_length_writeString (s : String) :
    s.toList.length + 2 ≤ (writeString s).length := by
  have h := length_le_length_flatMap_escape s.toList
  simp only [writeString, List.length_cons, List.length_append, List.length_nil]
  omega

theorem value_writeString (s : String) (rest : List Char) (n depth : Nat)
    (hn : s.toList.length < n) :
    Reader.value (n + 1) depth (writeString s ++ rest) = (.str s, some rest) := by
  have h := string_writeString s rest n hn
  simp [Reader.value, writeString, h]

def textMembers (ms : List (String × String)) : List (String × Json) :=
  ms.map fun m ↦ (m.1, .str m.2)

def textDocuments (ms : List (String × String)) : List (Option String × Document) :=
  ms.map fun m ↦ (some m.1, .str m.2)

theorem skipSpace_cons {c : Char} (hc : Reader.isSpace c = false) (cs : List Char) :
    Reader.skipSpace (c :: cs) = c :: cs := by
  simp [Reader.skipSpace, hc]

theorem skipSpace_writeString (s : String) (rest : List Char) :
    Reader.skipSpace (writeString s ++ rest) = writeString s ++ rest :=
  skipSpace_cons (by decide) _

theorem exists_writeMembers_eq (k v : String) (ms : List (String × String)) :
    ∃ cs, writeMembers (textMembers ((k, v) :: ms)) = '"' :: cs := by
  cases ms with
  | nil => exact ⟨_, rfl⟩
  | cons m ms => exact ⟨_, rfl⟩

theorem skipSpace_writeMembers (k v : String) (ms : List (String × String)) (rest : List Char) :
    Reader.skipSpace (writeMembers (textMembers ((k, v) :: ms)) ++ rest) =
      writeMembers (textMembers ((k, v) :: ms)) ++ rest := by
  obtain ⟨cs, h⟩ := exists_writeMembers_eq k v ms
  rw [h]
  exact skipSpace_cons (by decide) _

theorem members_cons (k v : String) (rest : List Char) (n depth : Nat)
    (hk : k.toList.length < n + 1) (hv : v.toList.length < n) :
    Reader.members (n + 2) depth (writeString k ++ ':' :: (writeString v ++ rest)) =
      match Reader.skipSpace rest with
      | '\x7d' :: rest => ([(some k, .str v)], some rest)
      | ',' :: rest =>
        let (ms, rest) := Reader.members (n + 1) depth (Reader.skipSpace rest)
        ((some k, .str v) :: ms, rest)
      | _ => ([(some k, .str v), (none, .broken)], none) := by
  have hn := string_writeString k (':' :: (writeString v ++ rest)) (n + 1) hk
  have hd := value_writeString v rest n depth hv
  have hq := skipSpace_writeString v rest
  generalize hr : Reader.members (n + 2) depth (writeString k ++ ':' :: (writeString v ++ rest)) = r
  simp only [writeString, List.cons_append, List.append_assoc, List.nil_append] at hn hd hq hr
  rw [Reader.members] at hr
  simp only [hn, skipSpace_cons (show Reader.isSpace ':' = false by decide), hq, hd] at hr
  exact hr.symm

theorem members_writeMembers (k v : String) (ms : List (String × String)) (rest : List Char)
    (n depth : Nat) (hn : (writeMembers (textMembers ((k, v) :: ms))).length ≤ n) :
    Reader.members n depth (writeMembers (textMembers ((k, v) :: ms)) ++ '\x7d' :: rest) =
      (textDocuments ((k, v) :: ms), some rest) := by
  induction ms generalizing k v n with
  | nil =>
    have hk := length_le_length_writeString k
    have hv := length_le_length_writeString v
    simp only [textMembers, List.map_cons, List.map_nil, writeMembers, write, List.length_append,
      List.length_cons] at hn
    obtain ⟨n, rfl⟩ : ∃ n', n = n' + 2 := ⟨n - 2, by omega⟩
    simp only [textMembers, textDocuments, List.map_cons, List.map_nil, writeMembers, write,
      List.append_assoc, List.cons_append]
    rw [members_cons k v _ n depth (by omega) (by omega)]
    simp only [skipSpace_cons (show Reader.isSpace '\x7d' = false by decide)]
  | cons m ms ih =>
    obtain ⟨k', v'⟩ := m
    have hk := length_le_length_writeString k
    have hv := length_le_length_writeString v
    have hm : writeMembers (textMembers ((k, v) :: (k', v') :: ms)) =
        writeString k ++ ':' :: (writeString v ++
          ',' :: writeMembers (textMembers ((k', v') :: ms))) := by
      simp only [textMembers, List.map_cons, writeMembers, write, List.append_assoc,
        List.cons_append]
    simp only [hm, List.length_append, List.length_cons] at hn
    obtain ⟨n, rfl⟩ : ∃ n', n = n' + 2 := ⟨n - 2, by omega⟩
    have hr := ih k' v' (n + 1) (by omega)
    simp only [hm, List.append_assoc, List.cons_append]
    rw [members_cons k v _ n depth (by omega) (by omega)]
    simp only [skipSpace_cons (show Reader.isSpace ',' = false by decide), skipSpace_writeMembers,
      hr]
    simp only [textDocuments, List.map_cons]

/-- An object of texts, of which there is at least one, is read back. -/
theorem read_compact_textMembers (k v : String) (ms : List (String × String)) :
    Reader.read (obj (textMembers ((k, v) :: ms))).compact =
      (.obj (textDocuments ((k, v) :: ms)), true) := by
  have hm := members_writeMembers k v ms []
    (2 * (obj (textMembers ((k, v) :: ms))).write.length + 1) 1
    (by simp only [write, List.length_cons, List.length_append]; omega)
  have hq := skipSpace_writeMembers k v ms ['\x7d']
  obtain ⟨cs, hc⟩ := exists_writeMembers_eq k v ms
  simp only [Reader.read, compact, String.toList_ofList]
  generalize 2 * (obj (textMembers ((k, v) :: ms))).write.length = n at hm ⊢
  simp only [write, List.cons_append,
    skipSpace_cons (show Reader.isSpace '\x7b' = false by decide)]
  rw [Reader.value]
  simp only [hc, List.cons_append] at hq hm ⊢
  have he : Reader.skipSpace [] = [] := rfl
  simp [hq, hm, he, Reader.nested, Reader.greatestDepth]

theorem toMembers_textMembers (ms : List (String × String)) : toMembers (textMembers ms) = textDocuments ms := by
  induction ms with
  | nil => rfl
  | cons m rest ih =>
    obtain ⟨k, v⟩ := m
    exact congrArg ((some k, Document.str v) :: ·) ih

theorem decodeText_compact_textMembers {α : Type} (dec : Decoder α) (k v : String) (ms : List (String × String)) :
    decodeText dec (obj (textMembers ((k, v) :: ms))).compact = decodeValue dec (obj (textMembers ((k, v) :: ms))) := by
  simp only [decodeText, read_compact_textMembers, decodeValue, toDocument, toMembers_textMembers]
  cases dec (.obj (textDocuments ((k, v) :: ms))) with
  | ok a => simp only [if_true]
  | error e => simp only

end Backoffice.Json
