import LspClient.Endpoint
import LspClient.Proofs.Url.Form

/-!
# The language in a URL

The URL for a language is that of the base with one more pair in its query, whatever
characters the language has: it is never mistaken for another pair or for a fragment, and it is
read back as it was, but for the blanks around it.

A URL that was read has nothing in its query or its fragment that would be encoded there:
`PlainTail`. One more pair keeps it so, and from what is written after the path of such a URL
its query and its fragment are read again.

Main result: `language_survives`.
-/

namespace LspClient.Url

/-! ## What is encoded already -/

/-- What was encoded has no character that would be. -/
theorem forall_mem_percentEncode (encoded : Char → Bool) (sign : encoded '%' = false)
    (digit : ∀ n : Fin 16, encoded (upperDigit n) = false) {text : List Char} :
    ∀ c ∈ percentEncode encoded text, encoded c = false := by
  intro c hc
  obtain ⟨original, -, member⟩ := List.mem_flatMap.mp hc
  split at member
  · exact forall_mem_percentBytes (p := fun c => encoded c = false) sign digit c member
  · next kept => exact List.mem_singleton.mp member ▸ Bool.eq_false_iff.mpr kept

/-- Text without such characters stays as it is. -/
theorem percentEncode_of_forall {encoded : Char → Bool} {text : List Char}
    (h : ∀ c ∈ text, encoded c = false) : percentEncode encoded text = text := by
  induction text with
  | nil => rfl
  | cons c text ih =>
    rw [List.forall_mem_cons] at h
    unfold percentEncode at ih ⊢
    rw [List.flatMap_cons, ih h.2, if_neg (Bool.eq_false_iff.mp h.1)]
    rfl

/-- Nothing that is encoded for a pair would be encoded in a query. -/
theorem inQuerySet_formEncode (text : List Char) :
    ∀ c ∈ formEncode text, inQuerySet c = false :=
  forall_mem_formEncode (by decide) (by decide) (by decide) (forall_isFormPlain (by decide))

/-! ## What follows the path -/

/-- What is written before the query. -/
def front (url : Url) : List Char :=
  url.scheme ++ ':' :: '/' :: '/' :: (url.userinfoText ++ url.host.text ++ url.portText ++
    url.path.flatMap ('/' :: ·))

/-- What is written after the path. -/
def tailText (url : Url) : List Char := partText '?' url.query? ++ partText '#' url.fragment?

theorem chars_eq (url : Url) : url.chars = url.front ++ url.tailText := by
  simp only [chars, front, tailText, List.append_assoc, List.cons_append]

/-- Nothing in the query and the fragment of a URL is left to be encoded. -/
structure PlainTail (url : Url) : Prop where
  query : ∀ c ∈ url.query?.getD [], inQuerySet c = false
  fragment : ∀ c ∈ url.fragment?.getD [], inFragmentSet c = false

/-- No character that is left as it is announces a fragment. -/
theorem unmarked_of_query {query : List Char} (h : ∀ c ∈ query, inQuerySet c = false) :
    ∀ c ∈ query, (c != '#') = true := by
  intro c hc
  refine bne_iff_ne.mpr ?_
  rintro rfl
  exact absurd (h _ hc) (by decide)

/-- The query is read back from what is written after the path. -/
theorem PlainTail.tailQuery?_eq {url : Url} (plain : url.PlainTail) :
    tailQuery? url.tailText = url.query? := by
  have inQuery := plain.query
  unfold tailText
  generalize url.query? = query? at inQuery ⊢
  cases query? with
  | none => cases url.fragment? <;> rfl
  | some query =>
    rw [Option.getD_some] at inQuery
    have stop : (partText '#' url.fragment?).takeWhile (· != '#') = [] := by
      cases url.fragment? <;> rfl
    show some (percentEncode inQuerySet ((query ++ partText '#' url.fragment?).takeWhile _)) = _
    rw [List.takeWhile_append_of_pos (unmarked_of_query inQuery), stop, List.append_nil]
    exact congrArg some (percentEncode_of_forall inQuery)

/-- The fragment is read back from what is written after the path. -/
theorem PlainTail.tailFragment?_eq {url : Url} (plain : url.PlainTail) :
    tailFragment? url.tailText = url.fragment? := by
  have inQuery := plain.query
  have inFragment := plain.fragment
  unfold tailText tailFragment?
  generalize url.query? = query? at inQuery ⊢
  generalize url.fragment? = fragment? at inFragment ⊢
  have unmarked : ∀ c ∈ partText '?' query?, (c != '#') = true := by
    cases query? with
    | none => exact List.forall_mem_nil _
    | some query => exact List.forall_mem_cons.mpr ⟨by decide, unmarked_of_query inQuery⟩
  rw [List.dropWhile_append_of_pos unmarked]
  cases fragment? with
  | none => rfl
  | some fragment => exact congrArg some (percentEncode_of_forall inFragment)

/-! ## Reading -/

/-- What is read after a path is encoded as it should be. -/
theorem plainTail_of_tail {url : Url} {tail : List Char} (query : url.query? = tailQuery? tail)
    (fragment : url.fragment? = tailFragment? tail) : url.PlainTail where
  query := by
    rw [query]
    unfold tailQuery?
    split
    · exact forall_mem_percentEncode inQuerySet (by decide) (by decide)
    · exact List.forall_mem_nil _
  fragment := by
    rw [fragment]
    unfold tailFragment?
    split
    · exact forall_mem_percentEncode inFragmentSet (by decide) (by decide)
    · exact List.forall_mem_nil _

theorem plainTail_of_parseSpecial {scheme rest : List Char} {port : Nat} {url : Url}
    (h : parseSpecial scheme port rest = .ok url) : url.PlainTail := by
  simp only [parseSpecial] at h
  split at h
  · cases h
  · generalize Host.parse _ = host at h
    generalize parsePort _ = port? at h
    cases host with
    | error e => cases h
    | ok host =>
      cases port? with
      | error e => cases h
      | ok port? =>
        cases h
        exact plainTail_of_tail rfl rfl

/-- A URL that was read has nothing left to be encoded. -/
theorem plainTail_of_parse {input : List Char} {url : Url}
    (h : parse input = .ok (.socket url)) : url.PlainTail := by
  unfold parse at h
  split at h
  · cases h
  · simp only at h
    split at h
    · generalize read : parseSpecial _ _ _ = special at h
      cases special with
      | error e => cases h
      | ok special =>
        have kind := Except.ok.inj h
        split at kind
        · cases kind
          exact plainTail_of_parseSpecial read
        · cases kind
    -- Other schemes are only checked, so that no URL comes of them.
    · split at h
      · generalize checkFileHost _ = checked at h
        cases checked <;> cases h
      · generalize checkOther _ = checked at h
        cases checked <;> cases h

theorem plainTail_of_socketUrl {text : String} {url : Url} (h : socketUrl text = .ok url) :
    url.PlainTail := by
  unfold socketUrl at h
  split at h
  · cases h
  · cases h
  · next read =>
    cases h
    exact plainTail_of_parse read

/-! ## One more pair -/

/-- The pairs in the query of a URL. -/
def pairs (url : Url) : List (String × String) := formPairs (url.query?.getD [])

theorem pairs_withPair (url : Url) (name value : List Char) :
    (url.withPair name value).pairs =
      url.pairs ++ [(String.ofList name, String.ofList value)] :=
  formPairs_appendPair _ name value

/-- One more pair leaves nothing to be encoded. -/
theorem PlainTail.withPair {url : Url} (plain : url.PlainTail) (name value : List Char) :
    (url.withPair name value).PlainTail where
  query := by
    intro c hc
    unfold Url.withPair appendPair at hc
    simp only [Option.getD_some, List.mem_append, List.mem_cons] at hc
    rcases hc with ((old | divider) | new) | rfl | new
    · exact plain.query c old
    · split at divider
      · cases divider
      · rw [List.mem_singleton.mp divider]
        decide
    · exact inQuerySet_formEncode name c new
    · decide
    · exact inQuerySet_formEncode value c new
  fragment := plain.fragment

/-- Different values make different texts. -/
theorem text_withPair_inj {url : Url} {name value other : List Char}
    (h : (url.withPair name value).text = (url.withPair name other).text) : value = other := by
  have chars := String.ofList_injective h
  rw [chars_eq, chars_eq] at chars
  -- Both texts begin and end alike, and so do both queries.
  have tails : (url.withPair name value).tailText = (url.withPair name other).tailText :=
    List.append_cancel_left chars
  have queries := List.append_cancel_right tails
  have written := List.append_cancel_left (List.cons.inj queries).2
  exact formEncode_inj (List.cons.inj written).2

/-- A URL is another one with one more pair behind the pairs of its query. -/
structure Extends (own url : Url) (name value : String) : Prop where
  scheme : own.scheme = url.scheme
  username : own.username = url.username
  password : own.password = url.password
  host : own.host = url.host
  port : own.port? = url.port?
  path : own.path = url.path
  fragment : own.fragment? = url.fragment?
  pairs : own.pairs = url.pairs ++ [(name, value)]
  /-- Nothing of the pair is taken for a fragment, and nothing of the fragment for a pair. -/
  readsQuery : tailQuery? own.tailText = own.query?
  readsFragment : tailFragment? own.tailText = own.fragment?

theorem PlainTail.extends {url : Url} (plain : url.PlainTail) (name value : List Char) :
    (url.withPair name value).Extends url (String.ofList name) (String.ofList value) where
  scheme := rfl
  username := rfl
  password := rfl
  host := rfl
  port := rfl
  path := rfl
  fragment := rfl
  pairs := pairs_withPair url name value
  readsQuery := (plain.withPair name value).tailQuery?_eq
  readsFragment := (plain.withPair name value).tailFragment?_eq

/-! ## The language -/

/-- The language without the blanks around it is what counts. -/
theorem languageUrl_of_ne_nil {base language : String} (h : Text.trim language.toList ≠ []) :
    languageUrl base language =
      (socketUrl base).map (·.withPair languageName (Text.trim language.toList)) := by
  unfold languageUrl
  split
  · next blank => exact absurd blank h
  · rfl

theorem languageUrl_of_nil {base language : String} (h : Text.trim language.toList = []) :
    languageUrl base language = .error .noLanguage := by
  unfold languageUrl
  rw [h]

/-- A URL for a language comes of a base and of a language that is not blank. -/
theorem exists_of_languageUrl {base language : String} {own : Url}
    (h : languageUrl base language = .ok own) : ∃ url, socketUrl base = .ok url ∧
      own = url.withPair languageName (Text.trim language.toList) := by
  by_cases blank : Text.trim language.toList = []
  · rw [languageUrl_of_nil blank] at h
    cases h
  · rw [languageUrl_of_ne_nil blank] at h
    generalize socketUrl base = read at h
    cases read with
    | error e => cases h
    | ok url => exact ⟨url, rfl, (Except.ok.inj h).symm⟩

/-- What the URL of a base for a language is. -/
structure LanguageSurvives (base language : String) : Prop where
  /-- A base and a language that is not blank have one, with the language as its last pair. -/
  accepted : ∀ url, socketUrl base = .ok url → Text.trim language.toList ≠ [] →
    ∃ own, languageUrl base language = .ok own ∧
      own.Extends url "language" (String.ofList (Text.trim language.toList))
  /-- Another language has another URL. -/
  distinct : ∀ other own another, languageUrl base language = .ok own →
    languageUrl base other = .ok another →
    Text.trim language.toList ≠ Text.trim other.toList → own.text ≠ another.text
  /-- A blank language has none, whatever the base is. -/
  blank : Text.trim language.toList = [] →
    (languageUrl base language).mapError EndpointError.toConnectError =
      .error (.invalidEndpoint "language must not be empty")
  /-- What is no base has none, for its own reason. -/
  refused : ∀ e, socketUrl base = .error e → Text.trim language.toList ≠ [] →
    (languageUrl base language).mapError EndpointError.toConnectError =
      .error (.invalidEndpoint e.reason)

/-- **The language survives the URL and cannot inject.** -/
theorem language_survives (base language : String) : LanguageSurvives base language where
  accepted url read written := by
    refine ⟨_, ?_, (plainTail_of_socketUrl read).extends languageName _⟩
    rw [languageUrl_of_ne_nil written, read]
    rfl
  distinct other own another first second different same := by
    obtain ⟨url, read, rfl⟩ := exists_of_languageUrl first
    obtain ⟨url', read', rfl⟩ := exists_of_languageUrl second
    cases Except.ok.inj (read.symm.trans read')
    exact different (text_withPair_inj same)
  blank h := by
    rw [languageUrl_of_nil h]
    rfl
  refused e failed written := by
    rw [languageUrl_of_ne_nil written, failed]
    rfl

/-- What would divide pairs or begin a fragment is encoded. -/
example : (languageUrl "ws://h/p?x#f" " c&d=é#+ e ").map Url.text =
    .ok "ws://h/p?x&language=c%26d%3D%C3%A9%23%2B+e#f" := by rfl

end LspClient.Url
