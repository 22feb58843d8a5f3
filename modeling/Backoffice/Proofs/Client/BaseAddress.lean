import Mathlib.Data.List.DropRight
import Backoffice.Client.Config
import Backoffice.Client.Route
import Backoffice.Proofs.Record.RoundTrip

namespace Backoffice

open Web (Url)

namespace Text

variable {p : Char → Bool} {cs body : List Char} {b c : Char}

theorem dropTrailing_eq_self_iff : dropTrailing p cs = cs ↔ ∀ c, cs.getLast? = some c → ¬ p c := by
  refine List.rdropWhile_eq_self_iff.trans ⟨fun h c hc ↦ ?_, fun h hl ↦ h _ (List.getLast?_eq_getLast_of_ne_nil hl)⟩
  obtain ⟨init, rfl⟩ := List.getLast?_eq_some_iff.mp hc
  simpa using h

theorem trimChars_eq_self_iff (h : cs.dropWhile isBlank = cs) :
    trimChars cs = cs ↔ ∀ c, cs.getLast? = some c → ¬ isBlank c := by
  rw [trimChars, h, dropTrailing_eq_self_iff]

theorem dropTrailing_append_replicate (h : ¬ p b) (hc : p c) (n : Nat) :
    dropTrailing p (body ++ b :: List.replicate n c) = body ++ [b] := by
  induction n with
  | zero => exact dropTrailing_append_of_neg h body
  | succ n ih =>
    rw [List.replicate_succ', ← List.cons_append, ← List.append_assoc, dropTrailing_append_of_pos hc, ih]

end Text

namespace Config

open Text (isBlank trimChars dropTrailing)

theorem toList_normalizeBase (s : String) :
    (normalizeBase s).toList = dropTrailing (· == '/') (trimChars s.toList) := String.toList_ofList

theorem dropWhile_normalizeBase (s : String) :
    (normalizeBase s).toList.dropWhile isBlank = (normalizeBase s).toList := by
  have hd := Text.dropWhile_dropWhile isBlank s.toList
  rw [toList_normalizeBase]
  exact Text.dropWhile_dropTrailing (Text.dropWhile_dropTrailing hd isBlank) _

theorem dropTrailing_normalizeBase (s : String) :
    dropTrailing (· == '/') (normalizeBase s).toList = (normalizeBase s).toList := by
  rw [toList_normalizeBase, Text.dropTrailing_dropTrailing]

/-- An address that is normalized again stays as it is just if it has no blank around it. -/
theorem normalizeBase_normalizeBase_iff (s : String) :
    normalizeBase (normalizeBase s) = normalizeBase s ↔ Text.trim (normalizeBase s) = normalizeBase s := by
  rw [← String.toList_inj, ← String.toList_inj, toList_normalizeBase, Text.trim, String.toList_ofList]
  refine ⟨fun h ↦ ?_, fun h ↦ by rw [h, dropTrailing_normalizeBase]⟩
  generalize hcs : (normalizeBase s).toList = cs at h ⊢
  -- both steps only take away, so if nothing is taken away in the end, the first step took nothing
  have hfirst : trimChars cs <+: cs := by
    rw [trimChars, ← hcs, dropWhile_normalizeBase]
    exact Text.dropTrailing_isPrefix _ _
  have hsecond : cs <+: trimChars cs := by
    conv_lhs => rw [← h]
    exact Text.dropTrailing_isPrefix _ _
  exact hfirst.eq_of_length_le hsecond.length_le

/-- Blanks are left around a base address just if the address it was made of ends, without the blanks around it, with
slashes after a blank. -/
theorem trim_normalizeBase_iff (s : String) :
    Text.trim (normalizeBase s) ≠ normalizeBase s ↔
      ∃ body b n, isBlank b ∧ (Text.trim s).toList = body ++ b :: List.replicate (n + 1) '/' := by
  have hslash {b : Char} (hb : isBlank b) : ¬ (b == '/') = true := fun h ↦ by
    rw [beq_iff_eq.mp h] at hb
    exact absurd hb (by decide)
  have hends : Text.trim (normalizeBase s) ≠ normalizeBase s ↔
      ∃ b, (normalizeBase s).toList.getLast? = some b ∧ isBlank b := by
    rw [Ne, ← String.toList_inj, Text.trim, String.toList_ofList,
      Text.trimChars_eq_self_iff (dropWhile_normalizeBase s)]
    push Not
    rfl
  rw [hends, toList_normalizeBase, Text.trim, String.toList_ofList]
  constructor
  · rintro ⟨b, hlast, hb⟩
    obtain ⟨body, hbody⟩ := List.getLast?_eq_some_iff.mp hlast
    have hsplit : trimChars s.toList = (body ++ [b]) ++ (trimChars s.toList).rtakeWhile (· == '/') := by
      rw [← hbody]
      exact List.rdropWhile_append_rtakeWhile.symm
    have hslashes : (trimChars s.toList).rtakeWhile (· == '/') =
        List.replicate ((trimChars s.toList).rtakeWhile (· == '/')).length '/' :=
      List.eq_replicate_iff.mpr ⟨rfl, fun c hc ↦ beq_iff_eq.mp (List.mem_rtakeWhile_imp (p := (· == '/')) hc)⟩
    generalize ((trimChars s.toList).rtakeWhile (· == '/')).length = k at hslashes
    cases k with
    | zero =>
      -- without a slash at its end the trimmed text would end with the blank
      rw [hslashes, List.replicate_zero, List.append_nil] at hsplit
      have htrimmed : dropTrailing isBlank (trimChars s.toList) = trimChars s.toList :=
        Text.dropTrailing_dropTrailing _ _
      exact absurd hb (Text.dropTrailing_eq_self_iff.mp htrimmed b (by rw [hsplit]; simp))
    | succ n => exact ⟨body, b, n, hb, by rw [hsplit, hslashes, List.append_assoc, List.singleton_append]⟩
  · rintro ⟨body, b, n, hb, hs⟩
    rw [hs, Text.dropTrailing_append_replicate (p := (· == '/')) (hslash hb) rfl]
    exact ⟨b, by simp, hb⟩

section Reading

variable {lookup lookup' : String → Option String} {c : Config}

def addressOf (lookup : String → Option String) : String := (lookup "CONSOLE_API_URL").getD defaultApiUrl

theorem ofLookup_eq_ok_iff : ofLookup lookup = .ok c ↔
    (Url.parse? (addressOf lookup)).isSome ∧ c.apiUrl = normalizeBase (addressOf lookup) ∧
    c.appVersion = ((given? lookup "CONSOLE_APP_VERSION").map Text.trim).getD defaultVersion ∧
    (lookup "CONSOLE_REQUEST_TIMEOUT_SECS").elim (.ok defaultTimeout) timeoutOf = .ok c.timeoutSeconds ∧
    c.storagePath = given? lookup "CONSOLE_STORAGE_PATH" ∧
    (lookup "CONSOLE_LOG_FORMAT").elim (.ok .json)
      (fun text ↦ (LogFormat.parse text).mapError ConfigError.invalidLogFormat) = .ok c.logFormat := by
  obtain ⟨apiUrl, appVersion, timeoutSeconds, storagePath, logFormat⟩ := c
  rw [ofLookup, ← addressOf]
  -- what the settings are and how each is read does not matter here
  generalize addressOf lookup = url
  generalize Url.parse? url = read
  generalize lookup "CONSOLE_REQUEST_TIMEOUT_SECS" = time?
  generalize lookup "CONSOLE_LOG_FORMAT" = format?
  generalize given? lookup "CONSOLE_APP_VERSION" = version?
  generalize given? lookup "CONSOLE_STORAGE_PATH" = path?
  generalize timeoutOf = readTime
  generalize LogFormat.parse = readFormat
  cases read with
  | none => exact ⟨nofun, fun h ↦ nomatch h.1⟩
  | some u =>
    simp only [ofBase, pure_bind, Option.isNone_some, Option.isSome_some, Bool.false_eq_true, if_false, true_and]
    have hread (time : Except ConfigError Nat) (format : Except ConfigError LogFormat) :
        time.bind (fun seconds ↦ format.bind fun f ↦ Except.ok
          (⟨normalizeBase url, (version?.map Text.trim).getD defaultVersion, seconds, path?, f⟩ : Config)) =
            .ok ⟨apiUrl, appVersion, timeoutSeconds, storagePath, logFormat⟩ ↔
          apiUrl = normalizeBase url ∧ appVersion = (version?.map Text.trim).getD defaultVersion ∧
            time = .ok timeoutSeconds ∧ storagePath = path? ∧ format = .ok logFormat := by
      cases time <;> cases format <;> simp [Except.bind, eq_comm]
    rw [← hread]
    cases time? <;> cases format? <;> rfl

theorem ofLookup_of_agree {c' : Config} (h : ofLookup lookup = .ok c)
    (hrest : ∀ name, name ≠ "CONSOLE_API_URL" → lookup' name = lookup name) :
    ofLookup lookup' = .ok c' ↔
      (Url.parse? (addressOf lookup')).isSome ∧ c' = { c with apiUrl := normalizeBase (addressOf lookup') } := by
  have hgiven {name : String} (hname : name ≠ "CONSOLE_API_URL") : given? lookup' name = given? lookup name := by
    rw [given?, given?, hrest name hname]
  obtain ⟨-, -, hversion, htime, hpath, hformat⟩ := ofLookup_eq_ok_iff.mp h
  rw [ofLookup_eq_ok_iff, hgiven (by decide), hgiven (by decide), hrest _ (by decide), hrest _ (by decide),
    ← hversion, htime, ← hpath, hformat]
  refine and_congr_right fun _ ↦ ⟨fun ⟨hurl, hversion, htime, hpath, hformat⟩ ↦ ?_, fun hc ↦ ?_⟩
  · rw [← hurl, ← hversion, Except.ok.inj htime, ← hpath, Except.ok.inj hformat]
  · rw [hc]
    exact ⟨rfl, rfl, rfl, rfl, rfl⟩

/-- The address of a configuration that was read starts with no blank, ends with no slash, and is the base of its
routes. A configuration made of it has the same address just if no blank is left at its end, and one is left just if
the address that was read ends, blanks around it apart, with slashes after a blank. Where the address is read in the
environment's place it is checked anew and then normalized the same way. -/
theorem apiUrl_of_ofLookup (h : ofLookup lookup = .ok c) :
    (∀ b, c.apiUrl.toList.head? = some b → ¬ isBlank b) ∧
    (∀ b, c.apiUrl.toList.getLast? = some b → b ≠ '/') ∧
    (Routes.ofBase c.apiUrl).base = c.apiUrl ∧
    ((ofBase c.apiUrl).apiUrl = c.apiUrl ↔ Text.trim c.apiUrl = c.apiUrl) ∧
    (Text.trim c.apiUrl = c.apiUrl ↔
      ¬ ∃ body b n, isBlank b ∧ (Text.trim (addressOf lookup)).toList = body ++ b :: List.replicate (n + 1) '/') ∧
    ∀ lookup' c', (∀ name, name ≠ "CONSOLE_API_URL" → lookup' name = lookup name) →
      lookup' "CONSOLE_API_URL" = some c.apiUrl →
      (ofLookup lookup' = .ok c' ↔
        (Url.parse? c.apiUrl).isSome ∧ c' = { c with apiUrl := (ofBase c.apiUrl).apiUrl }) := by
  obtain ⟨-, hurl, -⟩ := ofLookup_eq_ok_iff.mp h
  have hagain : (ofBase c.apiUrl).apiUrl = normalizeBase c.apiUrl := rfl
  refine ⟨fun b hb hblank ↦ ?_, fun b hb ↦ ?_, ?_, ?_, ?_, fun lookup' c' hrest hread ↦ ?_⟩
  · have hdrop := dropWhile_normalizeBase (addressOf lookup)
    rw [← hurl] at hdrop
    have hkept := List.head?_dropWhile_not isBlank c.apiUrl.toList
    rw [hdrop, hb] at hkept
    exact absurd hblank (by simp [hkept])
  · have hdrop := dropTrailing_normalizeBase (addressOf lookup)
    rw [← hurl] at hdrop
    simpa using Text.dropTrailing_eq_self_iff.mp hdrop b hb
  · rw [Routes.ofBase, hurl, dropTrailing_normalizeBase, String.ofList_toList]
  · rw [hagain, hurl, normalizeBase_normalizeBase_iff]
  · rw [hurl, ← trim_normalizeBase_iff, Ne, not_not]
  · have hurl' : addressOf lookup' = c.apiUrl := by rw [addressOf, hread, Option.getD_some]
    rw [hagain, ofLookup_of_agree h hrest, hurl']

/-- With a blank before the slash at its end, the address is not the same when it is read again. -/
theorem apiUrl_but_blank_before_slash :
    let named (url : String) := fun name ↦ if name = "CONSOLE_API_URL" then some url else none
    let c : Config := ⟨"http://h/x ", defaultVersion, defaultTimeout, none, .json⟩
    ofLookup (named "http://h/x /") = .ok c ∧ Text.trim c.apiUrl ≠ c.apiUrl ∧ (ofBase c.apiUrl).apiUrl ≠ c.apiUrl ∧
      ofLookup (named c.apiUrl) = .ok { c with apiUrl := "http://h/x" } := by
  intro named c
  have hread : ofLookup (named "http://h/x /") = .ok c := by decide +kernel
  obtain ⟨-, -, -, hsame, hends, hagain⟩ := apiUrl_of_ofLookup hread
  have hblank : Text.trim c.apiUrl ≠ c.apiUrl := by
    rw [Ne, hends, not_not]
    exact ⟨"http://h/x".toList, ' ', 0, by decide, by decide +kernel⟩
  have hrest : ∀ name, name ≠ "CONSOLE_API_URL" → named c.apiUrl name = named "http://h/x /" name :=
    fun name hn ↦ (if_neg hn).trans (if_neg hn).symm
  have hurl : (Url.parse? c.apiUrl).isSome ∧
      ({ c with apiUrl := "http://h/x" } : Config) = { c with apiUrl := (ofBase c.apiUrl).apiUrl } := by
    decide +kernel
  exact ⟨hread, hblank, fun h ↦ hblank (hsame.mp h), (hagain _ _ hrest rfl).mpr hurl⟩

end Reading

end Config

end Backoffice
