import FeatureSuite.Proofs.Gherkin.Language
import FeatureSuite.Proofs.Suite.Faults
import FeatureSuite.Proofs.Suite.Lookup

/-!
# Words that are known

A line is read as a step by the words of its dialect as they stand there, blanks included. A step is
compiled by the words of the language without blanks around them, each for the first keyword it
stands for. The second table leaves out none of the words but the bullet.
-/

namespace FeatureSuite

open Gherkin

/-! ## The words of a dialect -/

namespace KeywordTable

/-- A word is the bullet, or it stands in a table without the blanks around it. -/
def Knows (words : List (String × Keyword)) (word : String) : Prop :=
  Text.strip word = bullet ∨ ∃ keyword, (Text.strip word, keyword) ∈ words

private theorem Knows.mono {words more : List (String × Keyword)} {word : String}
    (h : Knows words word) (hsubset : words ⊆ more) : Knows more word := by
  refine h.imp_right fun hword => ?_
  obtain ⟨keyword, hmem⟩ := hword
  exact ⟨keyword, hsubset hmem⟩

private theorem addWords_knows (keyword : Keyword) (table : List (String × Keyword))
    (words : List String) :
    table ⊆ addWords keyword table words ∧
      ∀ word ∈ words, Knows (addWords keyword table words) word := by
  induction words generalizing table with
  | nil => exact ⟨List.Subset.refl _, fun word h => nomatch h⟩
  | cons word words ih =>
      let next : List (String × Keyword) :=
        if Text.strip word = bullet || table.any (·.1 == Text.strip word) then table
        else table ++ [(Text.strip word, keyword)]
      obtain ⟨hkept, hlater⟩ := ih next
      have hnext : table ⊆ next ∧ Knows next word := by
        dsimp only [next]
        split
        · rename_i hthere
          refine ⟨List.Subset.refl _, ?_⟩
          rcases Bool.or_eq_true_iff.mp hthere with hbullet | hany
          · exact .inl (of_decide_eq_true hbullet)
          · obtain ⟨⟨other, known⟩, hmem, heq⟩ := List.any_eq_true.mp hany
            obtain rfl : other = Text.strip word := by simpa using heq
            exact .inr ⟨known, hmem⟩
        · exact ⟨List.subset_append_left _ _, .inr ⟨keyword, by simp⟩⟩
      change table ⊆ addWords keyword next words ∧
        ∀ other ∈ word :: words, Knows (addWords keyword next words) other
      exact ⟨List.Subset.trans hnext.1 hkept, List.forall_mem_cons.mpr ⟨hnext.2.mono hkept, hlater⟩⟩

private theorem ofDialect_knows {dialect : Dialect} {word : String} (h : word ∈ dialect.stepWords) :
    Knows (ofDialect dialect).words word := by
  obtain ⟨type, hmem⟩ := Dialect.mem_typedStepWords h
  obtain ⟨_, given⟩ := addWords_knows .given [] dialect.given
  obtain ⟨hwhen, when⟩ := addWords_knows .when _ dialect.when
  obtain ⟨houtcome, outcome⟩ := addWords_knows .outcome _ dialect.outcome
  obtain ⟨hand, and⟩ := addWords_knows .and _ dialect.and
  obtain ⟨hbut, but⟩ := addWords_knows .but _ dialect.but
  unfold Dialect.typedStepWords at hmem
  simp only [List.mem_append, List.mem_map, Prod.mk.injEq] at hmem
  rcases hmem with (((⟨_, hword, rfl, _⟩ | ⟨_, hword, rfl, _⟩) | ⟨_, hword, rfl, _⟩) |
    ⟨_, hword, rfl, _⟩) | ⟨_, hword, rfl, _⟩
  · exact ((((given _ hword).mono hwhen).mono houtcome).mono hand).mono hbut
  · exact (((when _ hword).mono houtcome).mono hand).mono hbut
  · exact ((outcome _ hword).mono hand).mono hbut
  · exact (and _ hword).mono hbut
  · exact but _ hword

private theorem canonical_of_knows {table : KeywordTable} {word : String}
    (h : Knows table.words word) :
    ∃ keyword, table.canonical word = .ok keyword := by
  unfold canonical
  dsimp only
  split
  · exact ⟨.and, rfl⟩
  · rename_i hbullet
    obtain ⟨keyword, hmem⟩ := h.resolve_left hbullet
    split
    · exact ⟨_, rfl⟩
    · rename_i hnone
      have habsent := List.find?_eq_none.mp hnone _ hmem
      exact absurd (beq_self_eq_true (Text.strip word)) habsent

end KeywordTable

/-! ## Steps of sites -/

private theorem Site.Within.mem_steps {feature : Feature} {site : Site}
    (h : site.Within feature.nodes) {step : Step}
    (hstep : step ∈ site.origin.steps) : step ∈ feature.steps := by
  rw [← Feature.stepsAmong_nodes]
  have hnode : ∃ node ∈ feature.nodes, node.2.step? = some step := by
    have horigin := h.origin_within
    generalize site.origin = origin at hstep horigin
    cases origin with
    | background unit => exact ⟨_, horigin (List.mem_map_of_mem hstep), rfl⟩
    | scenario unit =>
        exact ⟨_, horigin.2 (List.mem_append_left _ (List.mem_map_of_mem hstep)), rfl⟩
    | row outline entry =>
        exact ⟨_, horigin.2.1 (List.mem_append_left _ (List.mem_map_of_mem hstep)), rfl⟩
  obtain ⟨node, hmem, hsome⟩ := hnode
  exact List.mem_filterMap.mpr ⟨node, hmem, hsome⟩

/-! ## Parsed files -/

/-- A failure that is about no language, no step word and no part that holds nothing. -/
def Failure.KnowsWords (failure : Failure) : Prop :=
  (∀ language, failure ≠ .document (.unknownLanguage language)) ∧
    (∀ keyword language, failure ≠ .document (.unknownKeyword keyword language)) ∧
      ∀ uri inRule, failure ≠ .document (.emptyChild uri inRule)

private theorem Failure.coversContent_knowsWords : Failure.CoversContent Failure.KnowsWords where
  conversion _ := ⟨nofun, nofun, nofun⟩
  fixtureTag _ _ _ _ := ⟨nofun, nofun, nofun⟩
  pageFixture _ _ _ _ _ := ⟨nofun, nofun, nofun⟩

namespace FeatureFile

variable {file : FeatureFile} {uri : String}

/-- The language of a file that is parsed is the one of a dialect, which has the words that open its
steps. -/
theorem dialect_of_parse {text : String} {document : Document} (h : parse text = .ok document)
    (hsource : file.document.feature = document.feature) :
    ∃ dialect, Dialect.find? file.language = some dialect ∧
      ∀ feature, file.document.feature = some feature → ∀ step ∈ feature.steps,
        step.keyword ∈ dialect.stepWords := by
  unfold language
  cases hfeature : file.document.feature with
  | none => exact ⟨_, rfl, nofun⟩
  | some feature =>
      obtain ⟨dialect, hdialect, hsteps⟩ := language_of_parse h (hsource.symm.trans hfeature)
      refine ⟨dialect, hdialect, fun other hsame => ?_⟩
      cases hsame
      exact hsteps

/-- In a file that is parsed, the language of the feature has a table of words, and every word that
opens a step is the bullet or stands in it without the blanks around it. So building never fails
because of the language, a step word or a part that holds nothing, whatever handlers are registered
and however it is configured. -/
theorem words_known_of_parse {text : String}
    (hparse : parseDocument text uri = .ok ⟨file.document, file.pickles⟩) :
    (∃ table, KeywordTable.find file.language = .ok table ∧
      ∀ feature, file.document.feature = some feature → ∀ step ∈ feature.steps,
        Text.strip step.keyword = bullet ∨
          ∃ keyword, (Text.strip step.keyword, keyword) ∈ table.words) ∧
      (∀ language, file.build ≠ .error (.document (.unknownLanguage language))) ∧
      (∀ keyword language, file.build ≠ .error (.document (.unknownKeyword keyword language))) ∧
      ∀ uri inRule, file.build ≠ .error (.document (.emptyChild uri inRule)) := by
  obtain ⟨document, hdocument, hsource, _⟩ := document_of_parse hparse
  obtain ⟨dialect, hdialect, hsteps⟩ := dialect_of_parse hdocument hsource
  have htable : KeywordTable.find file.language = .ok (.ofDialect dialect) := by
    unfold KeywordTable.find
    rw [hdialect]
  have hknown (feature : Feature) (hfeature : file.document.feature = some feature) (step : Step)
      (hstep : step ∈ feature.steps) :
      KeywordTable.Knows (KeywordTable.ofDialect dialect).words step.keyword :=
    KeywordTable.ofDialect_knows (hsteps feature hfeature step hstep)
  have hbuild : FailsOnly Failure.KnowsWords file.build := by
    refine build_failsOnly Failure.coversContent_knowsWords ⟨nofun, nofun, nofun⟩
      (fun _ => ⟨nofun, nofun, nofun⟩) (fun _ => ?_) (fun feature _ _ hfeature hhollow => ?_) ?_
    · rw [htable]
      exact .ok _
    · have hregular := (regular_of_parse hdocument (hsource.symm.trans hfeature)).1
      exact absurd hhollow hregular.not_hollow
    · intro keywords name hkeywords site hsite step hstep
      refine ⟨fun _ => ⟨nofun, nofun, nofun⟩, ?_⟩
      obtain rfl : keywords = .ofDialect dialect := Except.ok.inj (hkeywords.symm.trans htable)
      cases hfeature : file.document.feature with
      | none =>
          rw [sites, hfeature] at hsite
          cases hsite
      | some feature =>
          rw [sites_eq hfeature] at hsite
          -- The site has its steps from the feature, and these have their words from the dialect.
          have hwithin := feature_within (expandOutline_listsRows _ _) hsite
          have hword := hknown feature hfeature step (hwithin.mem_steps hstep)
          obtain ⟨keyword, hcanonical⟩ := KeywordTable.canonical_of_knows hword
          have hplanner : (file.planner (.ofDialect dialect) name).keywords.canonical step.keyword =
              .ok keyword := hcanonical
          rw [hplanner]
          exact .ok keyword
  exact ⟨⟨_, htable, hknown⟩, fun language herror => (hbuild _ herror).1 language rfl,
    fun keyword language herror => (hbuild _ herror).2.1 keyword language rfl,
    fun uri inRule herror => (hbuild _ herror).2.2 uri inRule rfl⟩

/-- A text in Japanese, whose step words are written without blanks, and with the bullet. -/
def japaneseText : String :=
  "# language: ja\n機能: F\n 背景:\n  前提ユーザー\n シナリオ: S\n  * 買う\n  かつ払う\n"

theorem words_known_of_japanese :
    ∃ file feature, load japaneseText "f.feature" {} = .ok file ∧
      file.document.feature = some feature ∧ file.language = "ja" ∧
        feature.steps.map (·.keyword) = ["前提", "* ", "かつ"] ∧
        (∃ table, KeywordTable.find "ja" = .ok table ∧ ∀ step ∈ feature.steps,
          Text.strip step.keyword = bullet ∨
            ∃ keyword, (Text.strip step.keyword, keyword) ∈ table.words) ∧
        ∀ keyword language, file.build ≠ .error (.document (.unknownKeyword keyword language)) := by
  have hload : (load japaneseText "f.feature" {}).toOption.any (fun file =>
      file.document.feature.any fun feature => decide (file.language = "ja" ∧
        feature.steps.map (·.keyword) = ["前提", "* ", "かつ"])) = true := by
    decide +kernel
  obtain ⟨file, hload, hcheck⟩ := exists_ok_of_any hload
  obtain ⟨⟨table, htable, hwords⟩, _, hkeyword, _⟩ := words_known_of_parse (parse_of_load hload)
  cases hfeature : file.document.feature with
  | none =>
      rw [hfeature] at hcheck
      cases hcheck
  | some feature =>
      rw [hfeature] at hcheck
      obtain ⟨hlanguage, hkeywords⟩ := of_decide_eq_true hcheck
      exact ⟨file, feature, hload, hfeature, hlanguage, hkeywords,
        ⟨table, hlanguage ▸ htable, hwords feature hfeature⟩, hkeyword⟩

end FeatureFile

end FeatureSuite
