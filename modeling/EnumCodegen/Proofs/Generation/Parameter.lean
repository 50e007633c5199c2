import EnumCodegen.Proofs.Text.Lines
import EnumCodegen.Proofs.Traversal
import EnumCodegen.Settings

/-!
# The grammar of a parameter

A parameter is read exactly if all its tokens belong to the grammar and one of them is a mode. Its
settings then have the modes of the tokens, in the order in which the tokens first occur, and the
placement of the last token that is one. What is not read is blamed on the parameter as a whole if it
is blank or has no mode, and else on its first token outside the grammar.

## Main definitions

* `ParameterToken.placementTexts`, `ParameterToken.texts`: the tokens of the grammar
* `ParameterToken.text`: what spells a token
* `Settings.parameterOf`: a parameter that asks for modes and a placement

## Main results

* `pairwise_idxOf_eraseDups`: items without later occurrences stand as they first occur
* `Settings.parse_eq_ok_iff`, `Settings.parse_eq_error_iff`: what is read, and what is blamed
* `Settings.parse_parameterOf`: a printed parameter is read as the settings that it asks for
* `Settings.parse_grammar`: a parameter is read exactly if it belongs to the grammar
-/

namespace EnumCodegen

/-! ## First occurrences -/

section

variable {Item Image : Type} [BEq Item] [LawfulBEq Item] [BEq Image] [LawfulBEq Image]
  {image? : Item → Option Image} {spell : Image → Item}

/-- Of two images, the one that comes first is spelled first. -/
theorem idxOf_lt_of_idxOf_filterMap_lt (hspell : ∀ item image, image? item = some image →
    item = spell image) {image later : Image} (himage : image? (spell image) = some image)
    (hlater : image? (spell later) = some later) {items : List Item}
    (h : (items.filterMap image?).idxOf image < (items.filterMap image?).idxOf later) :
    items.idxOf (spell image) < items.idxOf (spell later) := by
  induction items with
  | nil => exact absurd h (lt_irrefl _)
  | cons item items ih =>
    cases hitem : image? item with
    | none =>
      -- an item without image spells neither
      have hne {image : Image} (himage : image? (spell image) = some image) :
          item ≠ spell image := by
        rintro rfl
        rw [hitem] at himage
        cases himage
      rw [List.filterMap_cons_none hitem] at h
      rw [List.idxOf_cons_ne _ (hne himage), List.idxOf_cons_ne _ (hne hlater)]
      exact Nat.succ_lt_succ (ih h)
    | some first =>
      obtain rfl := hspell item first hitem
      rw [List.filterMap_cons_some hitem] at h
      rcases eq_or_ne first later with rfl | hfirst
      · rw [List.idxOf_cons_self] at h
        exact absurd h (Nat.not_lt_zero _)
      have hitem_later : spell first ≠ spell later := by
        intro heq
        rw [heq, hlater] at hitem
        exact hfirst (Option.some.inj hitem).symm
      rcases eq_or_ne first image with rfl | hfirst_image
      · rw [List.idxOf_cons_self, List.idxOf_cons_ne _ hitem_later]
        exact Nat.succ_pos _
      · have hitem_image : spell first ≠ spell image := by
          intro heq
          rw [heq, himage] at hitem
          exact hfirst_image (Option.some.inj hitem).symm
        rw [List.idxOf_cons_ne _ hfirst_image, List.idxOf_cons_ne _ hfirst] at h
        rw [List.idxOf_cons_ne _ hitem_image, List.idxOf_cons_ne _ hitem_later]
        exact Nat.succ_lt_succ (ih (Nat.lt_of_succ_lt_succ h))

/-- Dropping all later occurrences leaves every item where it first occurs. -/
theorem pairwise_idxOf_eraseDups : ∀ items : List Image,
    items.eraseDups.Pairwise fun item later => items.idxOf item < items.idxOf later
  | [] => by simp
  | item :: items => by
    rw [List.eraseDups_cons, List.pairwise_cons]
    have hne {later : Image} (hlater : later ∈ (items.filter (!· == item)).eraseDups) :
        item ≠ later := by
      rintro rfl
      have hfilter := (List.mem_filter.mp (List.mem_eraseDups.mp hlater)).2
      simp at hfilter
    constructor
    · intro later hlater
      rw [List.idxOf_cons_self, List.idxOf_cons_ne _ (hne hlater)]
      exact Nat.succ_pos _
    · -- the items behind the first are those of a shorter list, which lacks the first only
      refine List.Pairwise.imp_of_mem ?_ (pairwise_idxOf_eraseDups (items.filter (!· == item)))
      intro first later hfirst hlater h
      rw [List.idxOf_cons_ne _ (hne hfirst), List.idxOf_cons_ne _ (hne hlater)]
      apply Nat.succ_lt_succ
      have hkept {image : Image} (himage : image ∈ (items.filter (!· == item)).eraseDups) :
          Option.guard (!· == item) image = some image := by
        simp [(hne himage).symm]
      rw [← List.filterMap_eq_filter] at h hfirst hlater
      have hspell : ∀ other image, Option.guard (!· == item) other = some image →
          other = id image := by
        intro other image himage
        simpa using (Option.guard_eq_some_iff.mp himage).1
      refine idxOf_lt_of_idxOf_filterMap_lt hspell (hkept ?_) (hkept ?_) h
      · rwa [← List.filterMap_eq_filter]
      · rwa [← List.filterMap_eq_filter]
termination_by items => items.length
decreasing_by exact Nat.lt_succ_of_le (List.length_filter_le _ _)

end

/-! ## Tokens -/

theorem Mode.eq_token_of_ofToken? {text : Text} {mode : Mode} (h : ofToken? text = some mode) :
    text = mode.token := by
  unfold ofToken? at h
  simpa [eq_comm] using List.find?_some h

namespace ParameterToken

/-- The tokens that place the output. -/
def placementTexts : List Text :=
  ["paths=source_relative", "paths=import"]

/-- **The tokens of the grammar.** -/
def texts : List Text :=
  ["xml", "json", "gql", "paths=source_relative", "paths=import"]

/-- **What spells a token.** -/
def text : ParameterToken → Text
  | mode m => m.token
  | placement true => "paths=source_relative"
  | placement false => "paths=import"

theorem ofText?_text (token : ParameterToken) : ofText? token.text = some token := by
  rcases token with (_ | _ | _) | (_ | _) <;> decide

/-- A token is spelled in one way. -/
theorem text_of_ofText? {text : Text} {token : ParameterToken} (h : ofText? text = some token) :
    text = token.text := by
  unfold ofText? at h
  split at h
  · next hrelative =>
    obtain rfl := Option.some.inj h
    exact hrelative
  split at h
  · next himport =>
    obtain rfl := Option.some.inj h
    exact himport
  · obtain ⟨m, hm, rfl⟩ := Option.map_eq_some_iff.mp h
    exact Mode.eq_token_of_ofToken? hm

theorem text_mem_texts (token : ParameterToken) : token.text ∈ texts := by
  rcases token with (_ | _ | _) | (_ | _) <;> decide

theorem ofText?_eq_none_iff {text : Text} : ofText? text = none ↔ text ∉ texts := by
  constructor
  · intro h hmem
    have hall : ∀ text ∈ texts, (ofText? text).isSome := by decide
    have := hall text hmem
    rw [h] at this
    cases this
  · intro hmem
    by_contra hsome
    obtain ⟨token, htoken⟩ := Option.ne_none_iff_exists'.mp hsome
    rw [text_of_ofText? htoken] at hmem
    exact hmem (text_mem_texts token)

/-- Reading fails on texts outside the grammar. -/
theorem read_eq_error_iff (text : Text) (cause : ParameterError) :
    read text = .error cause ↔ decide (text ∉ texts) = true ∧ cause = .unrecognized text := by
  rw [decide_eq_true_eq, ← ofText?_eq_none_iff]
  unfold read
  cases ofText? text with
  | none => simp [eq_comm]
  | some token => simp

theorem read_eq_ok_iff {text : Text} {token : ParameterToken} :
    read text = .ok token ↔ ofText? text = some token := by
  unfold read
  cases ofText? text <;> simp

theorem text_injective : Function.Injective text := by
  intro token token' h
  have hread := ofText?_text token
  rw [h, ofText?_text token'] at hread
  exact (Option.some.inj hread).symm

/-- Texts in the grammar are no parts of a parameter but tokens. -/
theorem text_isToken (token : ParameterToken) :
    ',' ∉ token.text ∧ (∀ c ∈ token.text, CharClass.isWhiteSpace c = false) ∧ token.text ≠ [] := by
  have hcharacters : token.text.all (fun c => c ≠ ',' && !CharClass.isWhiteSpace c) = true := by
    rcases token with (_ | _ | _) | (_ | _) <;> decide
  rw [List.all_eq_true] at hcharacters
  refine ⟨fun hcomma => ?_, fun c hc => ?_, ?_⟩
  · exact absurd (hcharacters ',' hcomma) (by decide)
  · simpa using (Bool.and_eq_true_iff.mp (hcharacters c hc)).2
  · rcases token with (_ | _ | _) | (_ | _) <;> decide

theorem ofToken?_text (token : ParameterToken) : Mode.ofToken? token.text = token.mode? := by
  rcases token with (_ | _ | _) | (_ | _) <;> decide

theorem text_mem_placementTexts_iff (token : ParameterToken) :
    token.text ∈ placementTexts ↔ token.placement?.isSome := by
  rcases token with (_ | _ | _) | (_ | _) <;> decide

end ParameterToken

/-! ## Parameters -/

namespace Settings

open ParameterToken

/-- **A parameter that asks for modes and a placement.** -/
def parameterOf (modes : List Mode) (sourceRelative : Bool) : Text :=
  [','].intercalate ((modes.map mode ++ [placement sourceRelative]).map text)

variable {parameter : Text} {tokens : List ParameterToken}

/-- A blank parameter has no tokens. -/
theorem tokenTexts_of_blank (h : ∀ c ∈ parameter, CharClass.isWhiteSpace c = true) :
    tokenTexts parameter = [] := by
  unfold tokenTexts
  rw [List.filter_eq_nil_iff]
  intro token htoken
  obtain ⟨piece, hpiece, rfl⟩ := List.mem_map.mp htoken
  have hblank : Text.trimmed CharClass.isWhiteSpace piece = [] :=
    Text.trimmed_eq_nil_iff.mpr fun c hc => h c (Text.mem_of_mem_splitOnP hpiece hc).1
  simp [hblank]

theorem parse_of_blank (h : ∀ c ∈ parameter, CharClass.isWhiteSpace c = true) :
    parse parameter = .error .missing := by
  have htrimmed : (Text.trimmed CharClass.isWhiteSpace parameter).isEmpty = true := by
    rw [Text.trimmed_eq_nil_iff.mpr h]
    rfl
  unfold parse
  rw [if_pos htrimmed]
  rfl

/-- A parameter that is not blank is read token by token. -/
theorem parse_of_not_blank (h : ¬∀ c ∈ parameter, CharClass.isWhiteSpace c = true) :
    parse parameter = ((tokenTexts parameter).mapM ParameterToken.read).bind fun tokens =>
      if (ofTokens tokens).modes.isEmpty then .error (.noMode parameter)
      else .ok (ofTokens tokens) := by
  have htrimmed : ¬(Text.trimmed CharClass.isWhiteSpace parameter).isEmpty = true := by
    rwa [List.isEmpty_iff, Text.trimmed_eq_nil_iff]
  unfold parse
  rw [if_neg htrimmed]
  cases (tokenTexts parameter).mapM ParameterToken.read with
  | error cause => rfl
  | ok tokens =>
    change (if _ then _ else _ : Except ParameterError Settings) = if _ then _ else _
    split <;> rfl

theorem mapM_read_eq_ok_iff {texts : List Text} :
    texts.mapM ParameterToken.read = .ok tokens ↔ texts = tokens.map text := by
  rw [mapM_eq_ok_iff, ← List.forall₂_eq_eq_eq, List.forall₂_map_right_iff]
  constructor
  · exact List.Forall₂.imp fun _ _ h => text_of_ofText? (read_eq_ok_iff.mp h)
  · refine List.Forall₂.imp fun _ token h => ?_
    rw [h]
    exact read_eq_ok_iff.mpr (ofText?_text token)

theorem parse_of_tokenTexts (h : ¬∀ c ∈ parameter, CharClass.isWhiteSpace c = true)
    (htokens : tokenTexts parameter = tokens.map text) :
    parse parameter = if (ofTokens tokens).modes.isEmpty then .error (.noMode parameter)
      else .ok (ofTokens tokens) := by
  rw [parse_of_not_blank h, mapM_read_eq_ok_iff.mpr htokens]
  rfl

theorem parse_of_unrecognized (h : ¬∀ c ∈ parameter, CharClass.isWhiteSpace c = true) {token : Text}
    (htoken : (tokenTexts parameter).find? (· ∉ ParameterToken.texts) = some token) :
    parse parameter = .error (.unrecognized token) := by
  rw [parse_of_not_blank h, (mapM_eq_error_iff read_eq_error_iff).mpr ⟨token, htoken, rfl⟩]
  rfl

/-- Texts in the grammar are those of tokens. -/
theorem exists_map_text {texts : List Text} (h : ∀ token ∈ texts, token ∈ ParameterToken.texts) :
    ∃ tokens : List ParameterToken, texts = tokens.map text := by
  obtain ⟨tokens, htokens⟩ := (exists_mapM_eq_ok_iff (f := ParameterToken.read)).mpr fun token
      htoken => by
    have hread := mt ofText?_eq_none_iff.mp (not_not.mpr (h token htoken))
    obtain ⟨read, hread⟩ := Option.ne_none_iff_exists'.mp hread
    exact ⟨read, read_eq_ok_iff.mpr hread⟩
  exact ⟨tokens, mapM_read_eq_ok_iff.mp htokens⟩

/-! ## Settings of tokens -/

theorem mem_modes_ofTokens_iff {mode : Mode} :
    mode ∈ (ofTokens tokens).modes ↔ mode.token ∈ tokens.map text := by
  have hmode (token : ParameterToken) : token.mode? = some mode ↔ token = .mode mode := by
    cases token <;> simp [ParameterToken.mode?]
  simp only [ofTokens, ofModes, List.mem_eraseDups, List.mem_filterMap, hmode,
    exists_eq_right]
  exact (List.mem_map_of_injective text_injective (a := .mode mode)).symm

theorem pairwise_modes_ofTokens (tokens : List ParameterToken) :
    (ofTokens tokens).modes.Pairwise fun mode later =>
      (tokens.map text).idxOf mode.token < (tokens.map text).idxOf later.token := by
  have hmodes : (tokens.map text).filterMap Mode.ofToken? = tokens.filterMap (·.mode?) := by
    rw [List.filterMap_map]
    exact List.filterMap_congr fun token _ => ofToken?_text token
  refine (pairwise_idxOf_eraseDups (tokens.filterMap (·.mode?))).imp fun h => ?_
  rw [← hmodes] at h
  exact idxOf_lt_of_idxOf_filterMap_lt (fun _ _ => Mode.eq_token_of_ofToken?)
    (Mode.ofToken?_token _) (Mode.ofToken?_token _) h

/-- The last token that places the output counts. -/
theorem sourceRelative_ofTokens_iff (tokens : List ParameterToken) :
    (ofTokens tokens).sourceRelative = true ↔
      ((tokens.map text).filter (· ∈ placementTexts)).getLast? =
        some "paths=source_relative".toList := by
  change (tokens.filterMap (·.placement?)).getLastD false = true ↔ _
  induction tokens using List.reverseRecOn with
  | nil => decide
  | append_singleton tokens token ih =>
    rw [List.filterMap_append, List.map_append, List.filter_append]
    cases token with
    | mode m =>
      have hmode : ¬(text (.mode m) ∈ placementTexts) := by
        rw [text_mem_placementTexts_iff]
        simp [placement?]
      simpa [placement?, hmode] using ih
    | placement sourceRelative =>
      have hplacement : text (.placement sourceRelative) ∈ placementTexts :=
        (text_mem_placementTexts_iff _).mpr rfl
      simp only [placement?, List.filterMap_cons_some, List.filterMap_nil, List.getLastD_concat,
        List.map_cons, List.map_nil, List.filter_cons_of_pos, hplacement, List.filter_nil,
        List.getLast?_concat, Option.some.injEq, decide_true]
      cases sourceRelative <;> decide

/-! ## Printed parameters -/

theorem tokenTexts_intercalate (hne : tokens ≠ []) :
    tokenTexts ([','].intercalate (tokens.map text)) = tokens.map text := by
  have hpieces : ([','].intercalate (tokens.map text)).splitOn ',' = tokens.map text := by
    refine List.splitOn_intercalate ',' ?_ (by simpa using hne)
    intro piece hpiece
    obtain ⟨token, -, rfl⟩ := List.mem_map.mp hpiece
    exact (text_isToken token).1
  have htrimmed : (tokens.map text).map (Text.trimmed CharClass.isWhiteSpace) =
      tokens.map text := by
    rw [List.map_map]
    refine List.map_congr_left fun token _ => ?_
    exact Text.trimmed_of_forall (text_isToken token).2.1
  rw [tokenTexts, hpieces, htrimmed, List.filter_eq_self]
  intro piece hpiece
  obtain ⟨token, -, rfl⟩ := List.mem_map.mp hpiece
  simpa using (text_isToken token).2.2

/-- **A printed parameter** is read as the settings that it asks for. -/
theorem parse_parameterOf {modes : List Mode} (hmodes : modes ≠ []) (sourceRelative : Bool) :
    parse (parameterOf modes sourceRelative) = .ok (ofModes modes sourceRelative) := by
  have htexts : tokenTexts (parameterOf modes sourceRelative) =
      (modes.map mode ++ [placement sourceRelative]).map text := tokenTexts_intercalate (by simp)
  have hblank : ¬∀ c ∈ parameterOf modes sourceRelative, CharClass.isWhiteSpace c = true := by
    intro hblank
    rw [tokenTexts_of_blank hblank] at htexts
    simp at htexts
  have hsettings : ofTokens (modes.map mode ++ [placement sourceRelative]) =
      ofModes modes sourceRelative := by
    simp [ofTokens, mode?, placement?, List.filterMap_map]
  have hne : (ofModes modes sourceRelative).modes.isEmpty = false := by
    obtain ⟨first, rest, rfl⟩ := List.exists_cons_of_ne_nil hmodes
    simp [ofModes, List.eraseDups_cons]
  rw [parse_of_tokenTexts hblank htexts, hsettings, if_neg (by simp [hne])]

/-! ## The grammar -/

/-- The modes of tokens are those whose texts are among theirs. -/
theorem modes_ofTokens_ne_nil_iff :
    (ofTokens tokens).modes ≠ [] ↔ ∃ mode : Mode, mode.token ∈ tokens.map text := by
  constructor
  · intro h
    obtain ⟨m, hm⟩ := List.exists_mem_of_ne_nil _ h
    exact ⟨m, mem_modes_ofTokens_iff.mp hm⟩
  · rintro ⟨m, hm⟩
    exact List.ne_nil_of_mem (mem_modes_ofTokens_iff.mpr hm)

/-- **What is read**: tokens of which one is a mode. -/
theorem parse_eq_ok_iff {settings : Settings} :
    parse parameter = .ok settings ↔
      ∃ tokens : List ParameterToken, tokenTexts parameter = tokens.map text ∧
        (∃ mode : Mode, mode.token ∈ tokenTexts parameter) ∧ settings = ofTokens tokens := by
  by_cases hblank : ∀ c ∈ parameter, CharClass.isWhiteSpace c = true
  · rw [parse_of_blank hblank, tokenTexts_of_blank hblank]
    constructor
    · intro h
      cases h
    · rintro ⟨_, -, ⟨_, hmode⟩, -⟩
      exact absurd hmode List.not_mem_nil
  constructor
  · intro h
    rw [parse_of_not_blank hblank] at h
    cases hread : (tokenTexts parameter).mapM ParameterToken.read with
    | error cause =>
      rw [hread] at h
      cases h
    | ok tokens =>
      have htokens := mapM_read_eq_ok_iff.mp hread
      rw [hread] at h
      change (if _ then _ else _ : Except ParameterError Settings) = _ at h
      split at h
      · cases h
      · next hmodes =>
        rw [List.isEmpty_iff] at hmodes
        exact ⟨tokens, htokens, htokens ▸ modes_ofTokens_ne_nil_iff.mp hmodes,
          (Except.ok.inj h).symm⟩
  · rintro ⟨tokens, htokens, hmode, rfl⟩
    rw [htokens, ← modes_ofTokens_ne_nil_iff] at hmode
    rw [parse_of_tokenTexts hblank htokens, if_neg (by simpa using hmode)]

/-- **What is blamed**: a blank parameter before all tokens, then the first token outside the grammar,
then the lack of a mode. -/
theorem parse_eq_error_iff {cause : ParameterError} :
    parse parameter = .error cause ↔
      cause = .missing ∧ (∀ c ∈ parameter, CharClass.isWhiteSpace c = true) ∨
      (∃ token, cause = .unrecognized token ∧
        (tokenTexts parameter).find? (· ∉ ParameterToken.texts) = some token) ∨
      cause = .noMode parameter ∧ (∃ c ∈ parameter, CharClass.isWhiteSpace c = false) ∧
        (∀ token ∈ tokenTexts parameter, token ∈ ParameterToken.texts) ∧
        ∀ mode : Mode, mode.token ∉ tokenTexts parameter := by
  by_cases hblank : ∀ c ∈ parameter, CharClass.isWhiteSpace c = true
  · rw [parse_of_blank hblank, tokenTexts_of_blank hblank, Except.error.injEq]
    constructor
    · rintro rfl
      exact .inl ⟨rfl, hblank⟩
    · rintro (⟨rfl, -⟩ | ⟨token, -, htoken⟩ | ⟨-, ⟨c, hc, hsolid⟩, -⟩)
      · rfl
      · cases htoken
      · rw [hblank c hc] at hsolid
        cases hsolid
  have hsolid : ∃ c ∈ parameter, CharClass.isWhiteSpace c = false := by simpa using hblank
  cases hfind : (tokenTexts parameter).find? (· ∉ ParameterToken.texts) with
  | some token =>
    rw [parse_of_unrecognized hblank hfind, Except.error.injEq]
    constructor
    · rintro rfl
      exact .inr (.inl ⟨token, rfl, rfl⟩)
    · rintro (⟨-, h⟩ | ⟨_, rfl, h⟩ | ⟨-, -, hall, -⟩)
      · exact absurd h hblank
      · rw [Option.some.inj h]
      · have hunknown := List.find?_some hfind
        exact absurd (hall token (List.mem_of_find?_eq_some hfind)) (of_decide_eq_true hunknown)
  | none =>
    have hall : ∀ token ∈ tokenTexts parameter, token ∈ ParameterToken.texts := by
      simpa using List.find?_eq_none.mp hfind
    obtain ⟨tokens, htokens⟩ := exists_map_text hall
    rw [parse_of_tokenTexts hblank htokens]
    constructor
    · intro h
      split at h
      · next hmodes =>
        refine .inr (.inr ⟨(Except.error.inj h).symm, hsolid, hall, fun mode hmode => ?_⟩)
        exact modes_ofTokens_ne_nil_iff.mpr ⟨mode, htokens ▸ hmode⟩ (List.isEmpty_iff.mp hmodes)
      · cases h
    · rintro (⟨-, h⟩ | ⟨_, -, h⟩ | ⟨rfl, -, -, hmode⟩)
      · exact absurd h hblank
      · cases h
      · rw [if_pos]
        rw [List.isEmpty_iff, ← not_not (a := (ofTokens tokens).modes = []), ← ne_eq,
          modes_ofTokens_ne_nil_iff, ← htokens]
        exact fun ⟨m, hm⟩ => hmode m hm

/-- **A parameter is read exactly if it belongs to the grammar.** It is read if all its tokens are in
the grammar and one is a mode. The settings have the modes of the tokens in the order in which the
tokens first occur, and the last placement. Otherwise a blank parameter is missing, the first token
outside the grammar is unrecognized, or there is no mode. A printed parameter is read as the settings
it was printed for. -/
theorem parse_grammar (parameter : Text) :
    ((∃ settings, parse parameter = .ok settings) ↔
      (∀ token ∈ tokenTexts parameter, token ∈ ParameterToken.texts) ∧
        ∃ mode : Mode, mode.token ∈ tokenTexts parameter) ∧
    (∀ settings, parse parameter = .ok settings →
      (∀ mode : Mode, mode ∈ settings.modes ↔ mode.token ∈ tokenTexts parameter) ∧
      (settings.modes.Pairwise fun mode later =>
        (tokenTexts parameter).idxOf mode.token < (tokenTexts parameter).idxOf later.token) ∧
      (settings.sourceRelative = true ↔
        ((tokenTexts parameter).filter (· ∈ placementTexts)).getLast? =
          some "paths=source_relative".toList)) ∧
    (∀ cause, parse parameter = .error cause ↔
      cause = .missing ∧ (∀ c ∈ parameter, CharClass.isWhiteSpace c = true) ∨
      (∃ token, cause = .unrecognized token ∧
        (tokenTexts parameter).find? (· ∉ ParameterToken.texts) = some token) ∨
      cause = .noMode parameter ∧ (∃ c ∈ parameter, CharClass.isWhiteSpace c = false) ∧
        (∀ token ∈ tokenTexts parameter, token ∈ ParameterToken.texts) ∧
        ∀ mode : Mode, mode.token ∉ tokenTexts parameter) ∧
    ∀ modes ≠ [], ∀ sourceRelative,
      parse (parameterOf modes sourceRelative) = .ok (ofModes modes sourceRelative) := by
  refine ⟨⟨?_, ?_⟩, ?_, fun cause => parse_eq_error_iff, fun modes hmodes =>
    parse_parameterOf hmodes⟩
  · rintro ⟨settings, hparse⟩
    obtain ⟨tokens, htokens, hmode, -⟩ := parse_eq_ok_iff.mp hparse
    refine ⟨fun token htoken => ?_, hmode⟩
    rw [htokens] at htoken
    obtain ⟨read, -, rfl⟩ := List.mem_map.mp htoken
    exact text_mem_texts read
  · rintro ⟨hall, hmode⟩
    obtain ⟨tokens, htokens⟩ := exists_map_text hall
    exact ⟨ofTokens tokens, parse_eq_ok_iff.mpr ⟨tokens, htokens, hmode, rfl⟩⟩
  · intro settings hparse
    obtain ⟨tokens, htokens, -, rfl⟩ := parse_eq_ok_iff.mp hparse
    rw [htokens]
    exact ⟨fun mode => mem_modes_ofTokens_iff, pairwise_modes_ofTokens tokens,
      sourceRelative_ofTokens_iff tokens⟩

/-- Tokens may be repeated, surrounded by white space or missing, and the last placement counts. -/
theorem parse_grammar_tolerated :
    (∃ settings, parse " gql ,paths=source_relative,,xml,gql, paths=import" = .ok settings ∧
      Mode.xml ∈ settings.modes ∧ Mode.json ∉ settings.modes ∧
      settings.sourceRelative = false) ∧
    parse "gql,yaml,xslt" = .error (.unrecognized "yaml") ∧
    parse " ," = .error (.noMode " ,") ∧
    parse (parameterOf [.json, .xml, .json] true) = .ok (ofModes [.json, .xml, .json] true) := by
  obtain ⟨hread, hsettings, -, hprinted⟩ :=
    parse_grammar " gql ,paths=source_relative,,xml,gql, paths=import"
  obtain ⟨settings, hparse⟩ := hread.mpr ⟨by decide, .xml, by decide⟩
  obtain ⟨hmodes, -, hplacement⟩ := hsettings settings hparse
  refine ⟨⟨settings, hparse, (hmodes .xml).mpr (by decide), ?_, ?_⟩, ?_, ?_, ?_⟩
  · exact fun hjson => absurd ((hmodes .json).mp hjson) (by decide)
  · rw [← Bool.not_eq_true, hplacement]
    decide
  · exact ((parse_grammar "gql,yaml,xslt").2.2.1 _).mpr (.inr (.inl ⟨_, rfl, by decide⟩))
  · exact ((parse_grammar " ,").2.2.1 _).mpr
      (.inr (.inr ⟨rfl, ⟨',', by decide, by decide⟩, by decide, fun mode => by cases mode <;> decide⟩))
  · exact hprinted _ (by decide) true

end Settings
end EnumCodegen
