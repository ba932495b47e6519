import DocSurvey.Proofs.Footer.Rule
import DocSurvey.Proofs.Text.Occurrences
import DocSurvey.Proofs.Text.Sigma

/-! What surroundings and letter case do to the marks of a footer. A mark that a README has is there
in any text around it; a rule may lose its line to what follows, unless a line feed stands between
them. The marks that are found in words, and the rule, do not depend on the case of ASCII letters.
Phrases in other scripts are found where they occur, save that the small form of a capital sigma
depends on the letters next to the phrase.
-/

namespace DocSurvey.Footer

open DocSurvey.Text

variable {content whole other : List Char}

-----------------------------------------------------------------------------------------
-- Surroundings
-----------------------------------------------------------------------------------------

/-- A word that occurs in a part occurs in the whole. -/
theorem occursIn_of_isInfix {word : List Char} (inside : content <:+: whole)
    (occurs : occursIn word content = true)
    : occursIn word whole = true :=
  (occursIn_eq_true_iff word whole).mpr
    (((occursIn_eq_true_iff word content).mp occurs).trans inside)

/-- An ASCII word in lower case is found in every text around one where it is found. -/
theorem occursIn_lower_of_isInfix {word : List Char} (ascii : ∀ c ∈ word, c.toNat < 128)
    (inside : content <:+: whole) (occurs : occursIn word (lower content) = true)
    : occursIn word (lower whole) = true := by
  rw [occursIn_eq_true_iff] at occurs ⊢
  exact infix_lower_of_isInfix ascii inside occurs

/-- A rule does not depend on what stands before it. -/
theorem hasRule_of_suffix (behind : content <:+ whole) (ruled : hasRule content = true)
    : hasRule whole = true := by
  obtain ⟨rest, ends, inside⟩ := hasRule_eq_true_iff.mp ruled
  exact hasRule_eq_true_iff.mpr ⟨rest, ends, inside.trans behind⟩

-----------------------------------------------------------------------------------------
-- Letter case
-----------------------------------------------------------------------------------------

/-- Lower case respells no blank. -/
theorem isRespelling_toLower : IsRespelling fun c => [c.toLower] where
  visible c visible := by
    refine ⟨c.toLower, rfl, ?_⟩
    rw [apply_toLower isWhiteSpace (by decide), visible]
  filled c _ := List.cons_ne_nil _ _
  blank c blank := by
    rw [isBlank_eq_true_iff, List.forall_mem_singleton,
      apply_toLower isWhiteSpace (by decide), blank]

/-- A sign that is no letter is in lower case what it was before. -/
theorem toLower_eq_iff (sign : Char)
    (noLetter : ∀ code : Fin 128, (Char.ofNat code).toLower = sign ↔ Char.ofNat code = sign)
    (c : Char)
    : c.toLower = sign ↔ c = sign :=
  iff_of_eq (apply_toLower (· = sign) (fun code => propext (noLetter code)) c)

/-- Dashes and line feeds are no letters, so a rule is found whatever the case of the letters around
it.
-/
theorem hasRule_map_toLower (text : List Char)
    : hasRule (text.map Char.toLower) = hasRule text := by
  have dash := toLower_eq_iff '-' (by decide)
  have feed := toLower_eq_iff '\n' (by decide)
  rw [List.map_eq_flatMap]
  refine hasRule_flatMap isRespelling_toLower (fun c => ?_) ?_ text
  · rw [List.mem_singleton, eq_comm, feed]
  · have keeps : Keeps (fun c => [c.toLower]) '-' := fun c => by rw [List.singleton_inj, dash]
    simpa [rule] using keeps

/-- A rule is found in texts that agree in lower case, or in neither. -/
theorem hasRule_congr (same : content.map Char.toLower = other.map Char.toLower)
    : hasRule content = hasRule other := by
  rw [← hasRule_map_toLower content, same, hasRule_map_toLower]

/-- Phrases that agree up to the case of ASCII letters make the same rules. -/
theorem rules_congr (brandLink : String) {phrases others : List String}
    (same : phrases.map (fun phrase => phrase.toList.map Char.toLower)
      = others.map fun phrase => phrase.toList.map Char.toLower)
    : Rules.of brandLink phrases = Rules.of brandLink others := by
  have lowered (phrases : List String)
      : phrases.map (fun phrase => lower phrase.toList)
        = (phrases.map fun phrase => phrase.toList.map Char.toLower).map lower := by
    rw [List.map_map]
    exact List.map_congr_left fun phrase _ => (lower_map_toLower phrase.toList).symm
  rw [Rules.of, Rules.of, lowered phrases, same, ← lowered]

-----------------------------------------------------------------------------------------
-- All marks
-----------------------------------------------------------------------------------------

/-- With ASCII phrases, each mark of a README is there with any text before it and behind, save that
a rule needs a line feed behind it. The marks found in words, and the rule, are the same for texts
and phrases that agree up to the case of ASCII letters.
-/
theorem marks_survive (brandLink : String) (phrases : List String)
    (ascii : ∀ phrase ∈ phrases, ∀ c ∈ phrase.toList, c.toNat < 128)
    : let rules := Rules.of brandLink phrases
      (∀ before content behind : List Char,
        let inner := rules.analyze content
        let outer := rules.analyze (before ++ content ++ behind)
        (inner.brandLink = true → outer.brandLink = true)
        ∧ (inner.centered = true → outer.centered = true)
        ∧ (inner.enterprise = true → outer.enterprise = true)
        ∧ (inner.builtWith = true → outer.builtWith = true)
        ∧ (inner.mission = true → outer.mission = true)
        ∧ (inner.ruled = true
          → (rules.analyze (before ++ content)).ruled = true
            ∧ (rules.analyze (before ++ content ++ '\n' :: behind)).ruled = true))
      ∧ ∀ (others : List String) (content other : List Char),
          phrases.map (fun phrase => phrase.toList.map Char.toLower)
            = others.map (fun phrase => phrase.toList.map Char.toLower)
          → content.map Char.toLower = other.map Char.toLower
          → let one := rules.analyze content
            let same := (Rules.of brandLink others).analyze other
            one.enterprise = same.enterprise
            ∧ one.builtWith = same.builtWith
            ∧ one.mission = same.mission
            ∧ one.ruled = same.ruled := by
  intro rules
  constructor
  · intro before content behind inner outer
    have inside : content <:+: before ++ content ++ behind := List.infix_append _ _ _
    have mentioned {word : String}
        (isAscii : (word.toList.all fun c => decide (c.toNat < 128)) = true)
        : mentions (lower content) word = true
          → mentions (lower (before ++ content ++ behind)) word = true :=
      occursIn_lower_of_isInfix (forall_mem_of_all isAscii) inside
    refine ⟨occursIn_of_isInfix inside, occursIn_of_isInfix inside, mentioned (by decide),
      ?_, ?_, ?_⟩
    · intro found
      exact Bool.or_eq_true_iff.mpr ((Bool.or_eq_true_iff.mp found).imp (mentioned (by decide))
        (mentioned (by decide)))
    · intro found
      obtain ⟨_, member, occurs⟩ := List.any_eq_true.mp found
      obtain ⟨phrase, among, rfl⟩ := List.mem_map.mp member
      exact List.any_eq_true.mpr ⟨_, member,
        occursIn_lower_of_isInfix (ascii_of_mem_lower (ascii phrase among)) inside occurs⟩
    · intro found
      have ahead := hasRule_of_suffix (List.suffix_append before content) found
      exact ⟨ahead, (hasRule_append_feed _ _).trans (by rw [ahead, Bool.true_or])⟩
  · intro others content other samePhrases sameText one same
    have sameRules : rules = Rules.of brandLink others := rules_congr brandLink samePhrases
    have lowered := lower_congr sameText
    refine ⟨?_, ?_, ?_, hasRule_congr sameText⟩
    · simp only [one, same, Rules.analyze, lowered]
    · simp only [one, same, Rules.analyze, lowered]
    · simp only [one, same, Rules.analyze, lowered, sameRules]

/-- The sigma at the end of the leaflet is a final one until more text follows, the Kelvin sign has
the small k of a phrase, and the rule has a no-break space behind it.
-/
theorem marks_of_leaflet
    : let phrases := ["Kind NGO"]
      let rules := Rules.of "shelf" phrases
      let leaflet := "\u212aind ngo, powered by ΟΔΟΣ\n---\u00a0".toList
      let shouted := "\u212aIND NGO, POWERED BY ΟΔΟΣ\n---\u00a0".toList
      (∀ phrase ∈ phrases, ∀ c ∈ phrase.toList, c.toNat < 128)
      ∧ leaflet.map Char.toLower = shouted.map Char.toLower
      ∧ (rules.analyze ("Ά\u0130".toList ++ leaflet ++ "Σα".toList)).mission = true
      ∧ (rules.analyze ("Ά\u0130".toList ++ leaflet ++ "Σα".toList)).builtWith = true
      ∧ (rules.analyze ("Ά\u0130".toList ++ leaflet ++ '\n' :: "Σα".toList)).ruled = true
      ∧ ((Rules.of "shelf" ["kIND ngo"]).analyze shouted).mission = true
      ∧ ((Rules.of "shelf" ["kIND ngo"]).analyze shouted).ruled = true := by
  intro phrases rules leaflet shouted
  have ascii : ∀ phrase ∈ phrases, ∀ c ∈ phrase.toList, c.toNat < 128 := by
    simp [phrases]
  have sameText : leaflet.map Char.toLower = shouted.map Char.toLower := by decide +kernel
  have mission : (rules.analyze leaflet).mission = true := by decide +kernel
  have builtWith : (rules.analyze leaflet).builtWith = true := by decide +kernel
  have ruled : (rules.analyze leaflet).ruled = true := by decide +kernel
  obtain ⟨survives, agrees⟩ := marks_survive "shelf" phrases ascii
  obtain ⟨-, -, -, built, spoken, set⟩ := survives "Ά\u0130".toList leaflet "Σα".toList
  obtain ⟨-, -, sameMission, sameRule⟩ := agrees ["kIND ngo"] leaflet shouted (by decide) sameText
  exact ⟨ascii, sameText, spoken mission, built builtWith, (set ruled).2,
    sameMission.symm.trans mission, sameRule.symm.trans ruled⟩

-----------------------------------------------------------------------------------------
-- Phrases in any script
-----------------------------------------------------------------------------------------

/-- A phrase is found where it occurs if its capital sigmas have the forms there that they have in
the phrase alone.
-/
theorem mission_of_keepsSigmas (brandLink : String) {phrases : List String} {phrase : String}
    (among : phrase ∈ phrases) {before behind : List Char}
    (keeps : KeepsSigmas before phrase.toList behind)
    : ((Rules.of brandLink phrases).analyze (before ++ phrase.toList ++ behind)).mission
      = true := by
  have occurs := lowerBetween_infix_lower before phrase.toList behind
  rw [(lowerBetween_eq_lower_iff before phrase.toList behind).mpr keeps] at occurs
  exact List.any_eq_true.mpr
    ⟨_, List.mem_map_of_mem among, (occursIn_eq_true_iff _ _).mpr occurs⟩

/-- A phrase is found wherever it occurs if it has no capital sigma, if no cased letter is next to
it, or if at least its capital sigmas have the forms there that they have in the phrase alone.
-/
theorem phrase_recognised (brandLink : String) {phrases : List String} {phrase : String}
    (among : phrase ∈ phrases) (before behind : List Char)
    (fits : 'Σ' ∉ phrase.toList
      ∨ startsCased before.reverse = false ∧ startsCased behind = false
      ∨ KeepsSigmas before phrase.toList behind)
    : ((Rules.of brandLink phrases).analyze (before ++ phrase.toList ++ behind)).mission
      = true := by
  refine mission_of_keepsSigmas brandLink among ?_
  rcases fits with none | ⟨ahead, after⟩ | keeps
  · exact keepsSigmas_of_notMem none
  · exact keepsSigmas_of_apart ahead after
  · exact keeps

/-- A phrase between a space and a full stop, and one without a sigma inside a word. -/
theorem phrase_recognised_in_sentence
    : let phrases := ["ΣΥΛΛΟΓΟΣ", "ΜΚΟ"]
      let sentence := "Ο ".toList ++ "ΣΥΛΛΟΓΟΣ".toList ++ ". Α".toList
      let compound := "Σ".toList ++ "ΜΚΟ".toList ++ "Σ".toList
      "ΣΥΛΛΟΓΟΣ" ∈ phrases
      ∧ startsCased "Ο ".toList.reverse = false
      ∧ startsCased ". Α".toList = false
      ∧ ((Rules.of "shelf" phrases).analyze sentence).mission = true
      ∧ "ΜΚΟ" ∈ phrases
      ∧ 'Σ' ∉ "ΜΚΟ".toList
      ∧ ((Rules.of "shelf" phrases).analyze compound).mission = true := by
  intro phrases sentence compound
  have first : "ΣΥΛΛΟΓΟΣ" ∈ phrases := List.mem_cons_self
  have second : "ΜΚΟ" ∈ phrases := List.mem_cons_of_mem _ List.mem_cons_self
  have ahead : startsCased "Ο ".toList.reverse = false := by decide +kernel
  have after : startsCased ". Α".toList = false := by decide +kernel
  have none : 'Σ' ∉ "ΜΚΟ".toList := by decide
  exact ⟨first, ahead, after,
    phrase_recognised "shelf" first "Ο ".toList ". Α".toList (.inr (.inl ⟨ahead, after⟩)), second,
    none, phrase_recognised "shelf" second "Σ".toList "Σ".toList (.inl none)⟩

/-- A phrase that occurs as it is may be overlooked: the sigma at its end is a final one in the
phrase alone, but not where the word goes on.
-/
theorem phrase_overlooked_in_compound
    : ¬ ∀ (brandLink : String) (phrases : List String) (content : List Char),
        (∃ phrase ∈ phrases, phrase.toList <:+: content)
        → ((Rules.of brandLink phrases).analyze content).mission = true := by
  intro always
  have occurs : "ΣΥΛΛΟΓΟΣ".toList <:+: "#ΣΥΛΛΟΓΟΣΑΘΗΝΩΝ".toList :=
    ⟨"#".toList, "ΑΘΗΝΩΝ".toList, by decide⟩
  have overlooked :
      ((Rules.of "shelf" ["ΣΥΛΛΟΓΟΣ"]).analyze "#ΣΥΛΛΟΓΟΣΑΘΗΝΩΝ".toList).mission = false := by
    decide +kernel
  have found := always "shelf" ["ΣΥΛΛΟΓΟΣ"] "#ΣΥΛΛΟΓΟΣΑΘΗΝΩΝ".toList
    ⟨_, List.mem_singleton_self _, occurs⟩
  exact Bool.false_ne_true (overlooked.symm.trans found)

end DocSurvey.Footer
