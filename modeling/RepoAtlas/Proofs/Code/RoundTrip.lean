import RepoAtlas.Proofs.Code.Calls
import RepoAtlas.Proofs.Code.LineByLine
import RepoAtlas.Proofs.Code.StaticImports

/-! # Reading printed statements -/

namespace RepoAtlas.Code.Script

open Scan Text Unicode List

namespace Statement

variable (st : Statement)

/-! ## The text of a line -/

theorem isPlain_lead : ∀ c ∈ st.lead, isPlain c = true := by
  rw [lead, forall_mem_append]
  refine ⟨?_, st.form.isPlain_front⟩
  intro c hc
  rw [eq_of_mem_replicate hc]
  decide

theorem notMem_lead {d : Char} (hd : isPlain d = false) : d ∉ st.lead :=
  fun h => ne_of_kind (st.isPlain_lead d h) hd rfl

theorem back_mem {c : Char} (hc : c ∈ st.back) : c = ')' ∨ c = ';' := by
  rw [back, mem_append] at hc
  rcases hc with hc | hc
  · unfold Form.closeMark at hc
    split at hc
    · exact Or.inl (mem_singleton.mp hc)
    · cases hc
  · unfold ending at hc
    split at hc
    · exact Or.inr (mem_singleton.mp hc)
    · cases hc

theorem isQuote_back : ∀ c ∈ st.back, isQuote c = false := by
  intro c hc
  rcases st.back_mem hc with rfl | rfl <;> decide

theorem isQuote_quote : isQuote st.quote.char = true := by
  cases st.quote <;> decide

theorem print_of_not_isCall (h : st.form.isCall = false) :
    st.print = st.lead ++ quoted st.quote.char st.specifier.text st.back := by
  simp [print, Form.openMark, h]

theorem print_of_isCall (h : st.form.isCall = true) :
    st.print = st.lead ++ '(' :: quoted st.quote.char st.specifier.text st.back := by
  simp [print, Form.openMark, h]

/-! ## No other calls -/

theorem not_calls_of_not_isCall (h : st.form.isCall = false) (w : Text) : ¬Calls w st.print := by
  rw [st.print_of_not_isCall h]
  exact not_calls_of_paren_notMem st.isQuote_quote st.specifier.isSpecifier st.isQuote_back
    (st.notMem_lead (by decide))

theorem getLast?_lead (h : st.form.isCall = true) : st.lead.getLast? = st.form.word.toList.getLast? := by
  have hafter : st.form.after = [] := by
    cases hform : st.form <;> rw [hform] at h <;> first | rfl | cases h
  have hword : st.form.word.toList ≠ [] := by
    cases st.form <;> simp [Form.word]
  rw [lead, Form.front, hafter, append_nil, ← append_assoc, getLast?_append_of_ne_nil _ hword]

/-- Only the word of the statement is called in its line. -/
theorem not_calls_of_isCall (h : st.form.isCall = true) {w : Text} (hw : w ≠ [])
    (hne : w.getLast? ≠ st.form.word.toList.getLast?) : ¬Calls w st.print := by
  rw [st.print_of_isCall h]
  intro hcalls
  obtain ⟨d, hlast, hd⟩ : ∃ d, st.form.word.toList.getLast? = some d ∧ isBlank d = false := by
    cases st.form <;> simp only [Form.word] <;> exact ⟨_, rfl, by decide⟩
  have hcalled := getLast?_of_calls st.isQuote_quote st.specifier.isSpecifier st.isQuote_back
    (st.notMem_lead (by decide)) (st.getLast?_lead h ▸ hlast) hd hw hcalls
  exact hne (hcalled.trans hlast.symm)

/-! ## The import of a line -/

variable {st}

theorem print_effect (h : st.form = .effect) :
    st.print = replicate st.indent ' ' ++
      ("import".toList ++ ' ' :: quoted st.quote.char st.specifier.text st.back) := by
  simp [print, lead, h, Form.front, Form.before, Form.word, Form.after, Form.openMark, Form.isCall]

theorem print_clause {isType : Bool} {c : Clause} (h : st.form = .clause isType c) :
    st.print = clauseLine st.indent isType c (sourced st.quote.char st.specifier.text st.back) := by
  simp [print, lead, h, Form.front, Form.before, Form.word, Form.after, Form.openMark, Form.isCall,
    clauseLine, Clause.text, sourced]

theorem print_exported {e : Exported} (h : st.form = .exported e) :
    st.print = replicate st.indent ' ' ++
      ("export".toList ++ ' ' :: (e.print ++ ' ' :: sourced st.quote.char st.specifier.text st.back)) := by
  simp [print, lead, h, Form.front, Form.before, Form.word, Form.after, Form.openMark, Form.isCall,
    sourced]

theorem print_dynamic (h : st.form = .dynamic) :
    st.print = replicate st.indent ' ' ++
      ("import".toList ++ '(' :: quoted st.quote.char st.specifier.text (')' :: st.ending)) := by
  simp [print, lead, h, Form.front, Form.before, Form.word, Form.after, Form.openMark, Form.isCall,
    back, Form.closeMark, ending]

theorem print_required {declared? : Option (Keyword × Target)} (h : st.form = .required declared?) :
    st.print = replicate st.indent ' ' ++ (declaration declared? ++
      ("require".toList ++ '(' :: quoted st.quote.char st.specifier.text (')' :: st.ending))) := by
  simp [print, lead, h, Form.front, Form.before, Form.word, Form.after, Form.openMark, Form.isCall,
    back, Form.closeMark, ending]

theorem exists_head_required (declared? : Option (Keyword × Target)) (t : Text) :
    ∃ d u, declaration declared? ++ ("require".toList ++ t) = d :: u ∧
      isNameStart d = true ∧ d ≠ 'i' ∧ d ≠ 'e' := by
  rcases declared? with _ | ⟨k, target⟩
  · exact ⟨'r', _, rfl, by decide⟩
  · cases k <;> exact ⟨_, _, rfl, by decide⟩

variable (st)

theorem first?_staticImport :
    staticImport.first? st.print = if st.form.isCall then none else some st.import := by
  have hq := st.isQuote_quote
  have hs := st.specifier.isSpecifier
  rw [first?_eq]
  cases h : st.form with
  | effect =>
    rw [print_effect h, staticImport_effect hq hs, Statement.import, h]
    rfl
  | clause isType c =>
    rw [print_clause h, staticImport_clause hq hs, Statement.import, h]
    rfl
  | exported e =>
    rw [print_exported h, staticImport_exported hq hs, Statement.import, h]
    rfl
  | dynamic =>
    rw [print_dynamic h, staticImport_call]
    rfl
  | required declared? =>
    obtain ⟨d, u, htext, hd, hi, he⟩ := exists_head_required declared?
      ('(' :: quoted st.quote.char st.specifier.text (')' :: st.ending))
    have hblank : Stops isBlank (d :: u) :=
      Stops.cons (isBlank_of_isNameChar (isNameChar_of_isNameStart hd)) u
    rw [print_required h, htext, staticImport_of_head?_ne _ hblank (by simpa using hi) (by simpa using he)]
    rfl

theorem not_calls_ending (w : Text) : ¬Calls w st.ending := by
  intro h
  have hparen := h.paren_mem
  unfold ending at hparen
  split at hparen <;> simp at hparen

variable {st}

theorem all_dynamicImport (h : st.form = .dynamic) : dynamicImport.all st.print = [st.import] := by
  rw [print_dynamic h, Statement.import, h]
  apply all_indented (fun b t => dynamicImport_space t) _
    fun b u hu => readsCalls_dynamicImport.eq_nil (st.not_calls_ending _) hu
  intro b hb
  exact ⟨some ')', [], dynamicImport_call st.isQuote_quote st.specifier.isSpecifier hb⟩

theorem all_requireCall {declared? : Option (Keyword × Target)} (h : st.form = .required declared?) :
    requireCall.all st.print = [st.import] := by
  rw [print_required h, Statement.import, h]
  apply all_indented (fun b t => requireCall_space t) _
    fun b u hu => readsCalls_requireCall.eq_nil (st.not_calls_ending _) hu
  intro b hb
  exact ⟨some ')', requireCall_call st.isQuote_quote st.specifier.isSpecifier hb declared?⟩

variable (st)

theorem importsOfLine_print : importsOfLine st.print = [st.import] := by
  rw [importsOfLine, first?_staticImport]
  cases hcall : st.form.isCall with
  | false =>
    rw [readsCalls_dynamicImport.all_eq_nil (st.not_calls_of_not_isCall hcall _),
      readsCalls_requireCall.all_eq_nil (st.not_calls_of_not_isCall hcall _)]
    rfl
  | true =>
    cases h : st.form with
    | effect | clause _ _ | exported _ =>
      rw [h] at hcall
      cases hcall
    | dynamic =>
      have hrequire : ¬Calls "require".toList st.print :=
        st.not_calls_of_isCall hcall (by decide) (by rw [h]; decide)
      rw [all_dynamicImport h, readsCalls_requireCall.all_eq_nil hrequire]
      rfl
    | required declared? =>
      have hdynamic : ¬Calls "import".toList st.print :=
        st.not_calls_of_isCall hcall (by decide) (by rw [h, Form.word]; decide)
      rw [readsCalls_dynamicImport.all_eq_nil hdynamic, all_requireCall h]
      rfl

/-! ## Lines of statements -/

theorem getLast?_print : st.print.getLast? = (st.quote.char :: st.back).getLast? := by
  have hprint : st.print =
      st.lead ++ st.form.openMark ++ st.quote.char :: st.specifier.text ++ st.quote.char :: st.back := by
    simp [print, quoted]
  rw [hprint, getLast?_append_of_ne_nil _ (cons_ne_nil _ _)]

theorem isLine_print : IsLine st.print := by
  refine ⟨by simp [print, quoted], ?_, ?_⟩
  · intro hfeed
    have hquote : st.quote.char ≠ '\n' := by
      cases st.quote <;> decide
    have hback : '\n' ∉ st.back := by
      intro h
      rcases st.back_mem h with h | h <;> cases h
    have hopen : '\n' ∉ st.form.openMark := by
      unfold Form.openMark
      split <;> simp
    have hlead : '\n' ∉ st.lead := st.notMem_lead (by decide)
    rw [print] at hfeed
    simp only [quoted, mem_append, mem_cons] at hfeed
    rcases hfeed with h | h | h | h | h | h
    · exact hlead h
    · exact hopen h
    · exact hquote h.symm
    · exact st.specifier.noFeed h
    · exact hquote h.symm
    · exact hback h
  · rw [getLast?_print]
    intro hlast
    rcases mem_cons.mp (mem_of_getLast? hlast) with h | h
    · cases hquote : st.quote <;> rw [hquote] at h <;> cases h
    · rcases st.back_mem h with h | h <;> cases h

theorem exists_head_front (f : Form) : ∃ d u, f.front = d :: u ∧ isNameStart d = true := by
  simp only [Form.front]
  cases f with
  | required declared? =>
    obtain ⟨d, u, htext, hd, -⟩ := exists_head_required declared? []
    exact ⟨d, u, htext, hd⟩
  | exported _ =>
    simp only [Form.before, Form.word, nil_append]
    exact ⟨'e', _, rfl, by decide⟩
  | effect | clause _ _ | dynamic =>
    simp only [Form.before, Form.word, nil_append]
    exact ⟨'i', _, rfl, by decide⟩

theorem isComment_print : Language.script.isComment st.print = false := by
  obtain ⟨d, u, hfront, hd⟩ := exists_head_front st.form
  have htrim : trimStart st.print =
      d :: (u ++ (st.form.openMark ++ quoted st.quote.char st.specifier.text st.back)) := by
    have hblank : ∀ c ∈ replicate st.indent ' ', isBlank c = true := fun _ => isBlank_of_mem_replicate
    have hstart : isBlank d = false := isBlank_of_isNameChar (isNameChar_of_isNameStart hd)
    rw [trimStart, print, lead, append_assoc, dropWhile_append_of_pos hblank, hfront, cons_append,
      dropWhile_cons_of_neg (by simp [hstart])]
  have hslash : d ≠ '/' := ne_of_kind hd (by decide)
  have hstar : d ≠ '*' := ne_of_kind hd (by decide)
  simp [Language.isComment, Language.commentMarks, htrim, isPrefixOf, hslash.symm, hstar.symm]

end Statement

/-! ## Scripts of statements -/

def numbered (first : Nat) (sts : List Statement) : List Import :=
  (sts.zipIdx first).map fun (st, n) => { st.import with line := n }

theorem importsOfLines_print (first : Nat) (sts : List Statement) :
    Language.script.importsOfLines ((sts.map Statement.print).zipIdx first) = numbered first sts := by
  have hread : ∀ st ∈ sts, (if Language.script.isComment st.print then []
      else Language.script.importsOfLine st.print) = [st.import] := by
    intro st hst
    rw [st.isComment_print]
    exact st.importsOfLine_print
  rw [Language.importsOfLines_map hread, numbered, map_eq_flatMap]
  rfl

/-- A script with one statement on each line has one import for each statement, in the order and with the
numbers of the lines, whether or not its last line is ended. -/
theorem imports_print {path : Text} (hpath : Language.ofPath? path = some .script) (sts : List Statement) :
    imports path (join ['\n'] (sts.map Statement.print)) = numbered 1 sts ∧
      imports path ((sts.map Statement.print).flatMap (· ++ ['\n'])) = numbered 1 sts := by
  have hlines : ∀ line ∈ sts.map Statement.print, IsLine line := by
    intro line hline
    obtain ⟨st, -, rfl⟩ := mem_map.mp hline
    exact st.isLine_print
  have hread {content : Text} (hcontent : lines content = sts.map Statement.print) :
      imports path content = numbered 1 sts := by
    rw [imports, hpath, hcontent]
    exact importsOfLines_print 1 sts
  exact ⟨hread (lines_join hlines), hread (lines_flatMap hlines)⟩

/-- Names that are words of the statements, and a specifier that seems to begin a call. -/
def wordyStatements : List Statement :=
  let type : Name := ⟨"type".toList, by decide⟩
  let source : Name := ⟨"from".toList, by decide⟩
  let call : Name := ⟨"require".toList, by decide⟩
  let place : Specifier := ⟨"./a".toList, by decide, by decide⟩
  [⟨.clause false (.defaulted type), place, .single, 0, true⟩,
    ⟨.clause true (.defaultAndNamed source [⟨type, none, by decide⟩, ⟨source, some type, by decide⟩]),
      place, .double, 2, false⟩,
    ⟨.required (some (.ofConst, .name call)), ⟨"import(".toList, by decide, by decide⟩, .single, 0, false⟩,
    ⟨.exported (.allAs source), place, .single, 0, true⟩]

theorem imports_print_wordyStatements :
    Language.ofPath? "src/index.mts".toList = some .script ∧
    (imports "src/index.mts".toList ("import type from './a';\n".toList ++
        "  import type from, \x7b type, from as type \x7d from \"./a\"\n".toList ++
        "const require = require('import(')\n".toList ++
        "export * as from from './a';".toList)).map (fun i => (i.line, i.specifier, i.names, i.isDefault)) =
      [(1, "./a".toList, ["type".toList], true),
        (2, "./a".toList, ["from".toList, "type".toList, "from".toList], true),
        (3, "import(".toList, ["require".toList], true),
        (4, "./a".toList, [], false)] := by
  have hpath : Language.ofPath? "src/index.mts".toList = some .script := by decide
  have hprint : "import type from './a';\n".toList ++
      "  import type from, \x7b type, from as type \x7d from \"./a\"\n".toList ++
      "const require = require('import(')\n".toList ++ "export * as from from './a';".toList =
        join ['\n'] (wordyStatements.map Statement.print) := by
    decide +kernel
  rw [hprint, (imports_print hpath wordyStatements).1]
  exact ⟨hpath, by decide +kernel⟩

end RepoAtlas.Code.Script
