import RepoAtlas.Search.Query
import RepoAtlas.Proofs.Text.Blanks

/-! # Queries word by word -/

namespace RepoAtlas.Search.Query

open Text Unicode List

def termsOf (word : Text) : List Text :=
  words (Text.wordForm (Path.key word))

def extensionsOf (word : Text) : List Text :=
  (words (Text.lower (Path.key word))).map Path.extension

theorem flatMap_words_trim {f : Text → List Text} (hnil : f [] = [])
    (hblank : ∀ s c t, isBlank c = true → f (s ++ c :: t) = f s ++ f t) (text : Text) :
    f (trim text) = (words text).flatMap f := by
  rw [eq_flatMap_words hnil hblank, words_trim]

theorem terms_ofText (text : Text) : (ofText text).terms = (words text).flatMap termsOf := by
  have hwords : termsOf (trim text) = (words text).flatMap termsOf := by
    apply flatMap_words_trim rfl
    intro s c t hc
    rw [termsOf, Path.key_append hc, words_wordForm_append hc]
    rfl
  rw [← hwords]
  rfl

theorem extension?_ofText (text : Text) :
    (ofText text).extension? = ((words text).flatMap extensionsOf).find? isKnownExtension := by
  have hwords : extensionsOf (trim text) = (words text).flatMap extensionsOf := by
    apply flatMap_words_trim rfl
    intro s c t hc
    rw [extensionsOf, Path.key_append hc, lower_append hc, words_append hc, map_append]
    rfl
  rw [← hwords]
  rfl

theorem steps_ofText (text : Text) :
    (ofText text).steps = (ofText text).terms.flatMap (pieces (· == '/')) := rfl

theorem hasSlash_ofText (text : Text) :
    (ofText text).hasSlash = true ↔ ∃ term ∈ (ofText text).terms, '/' ∈ term := by
  have hslash : (ofText text).hasSlash = true ↔ '/' ∈ (ofText text).wordForm := by
    simp [ofText]
  rw [hslash, mem_iff_mem_words (show isBlank '/' = false by decide)]
  rfl

theorem steps_of_plain {text : Text} (hplain : ∀ term ∈ (ofText text).terms, '/' ∉ term) :
    (ofText text).steps = (ofText text).terms := by
  have hpieces : ∀ term ∈ (ofText text).terms, pieces (· == '/') term = [term] := by
    intro term hterm
    apply pieces_of_forall ?_ (forall_of_mem_pieces hterm).2
    intro c hc
    simp only [beq_eq_false_iff_ne]
    rintro rfl
    exact hplain term hterm hc
  rw [steps_ofText, flatMap_def, map_congr_left hpieces, ← flatMap_def, flatMap_singleton']

variable {text text' word : Text} {us vs : List Text}

theorem words_of_insertion (h : words text' = us ++ word :: vs) : words word = [word] :=
  words_of_mem (t := text') (by simp [h])

theorem exists_terms_of_insertion {term : Text} (h : words text = us ++ vs)
    (h' : words text' = us ++ word :: vs) (hterm : (ofText word).terms = [term]) :
    ∃ before after, (ofText text).terms = before ++ after ∧
      (ofText text').terms = before ++ term :: after := by
  have hword : termsOf word = [term] := by
    rw [← hterm, terms_ofText, words_of_insertion h', flatMap_singleton]
  refine ⟨us.flatMap termsOf, vs.flatMap termsOf, ?_, ?_⟩
  · rw [terms_ofText, h, flatMap_append]
  · rw [terms_ofText, h', flatMap_append, flatMap_cons, hword]
    rfl

/-- A word without a known extension leaves the extension asked for as it is. -/
theorem extension?_of_insertion (h : words text = us ++ vs) (h' : words text' = us ++ word :: vs)
    (hword : (ofText word).extension? = none) :
    (ofText text').extension? = (ofText text).extension? := by
  have hnone : (extensionsOf word).find? isKnownExtension = none := by
    rw [← hword, extension?_ofText, words_of_insertion h', flatMap_singleton]
  rw [extension?_ofText, extension?_ofText, h, h', flatMap_append, flatMap_append, flatMap_cons,
    find?_append, find?_append, find?_append, hnone, Option.none_or]

end RepoAtlas.Search.Query
