import SpanSearch.Proofs.Layout.Positions

/-! # What layouts keep of a text

The layouts of a text, be it a pattern or not, have the same characters in the same order, white
space left aside. The segments of a text have all its characters but white space outside of
delimiters, and what the layouts make of segments has them, too.
-/

namespace SpanSearch.Layout

open Unicode Pattern SpanSearch.Cursor

/-- The characters of a text without white space. -/
def solid (cs : List Char) : List Char := cs.filter (!isSpace ·)

/-- The characters of a segment without white space. -/
def Segment.solid : Segment → List Char
  | mark c => Layout.solid [c]
  | space => []
  | verbatim text => Layout.solid text

section

variable {c : Char} {cs b : List Char} {segs : List Segment}

@[simp] theorem solid_append (cs cs' : List Char) : solid (cs ++ cs') = solid cs ++ solid cs' :=
  List.filter_append ..

theorem solid_nil : solid [] = [] := rfl

@[simp] theorem solid_solid (cs : List Char) : solid (solid cs) = solid cs := by
  simp [solid]

theorem solid_cons_space (space : isSpace c = true) (cs : List Char) : solid (c :: cs) = solid cs :=
  List.filter_cons_of_neg (by simp [space])

theorem solid_cons (c : Char) (cs : List Char) : solid (c :: cs) = solid [c] ++ solid cs :=
  solid_append [c] cs

theorem solid_blank (blank : Blank b) : solid b = [] :=
  List.filter_eq_nil_iff.2 fun c mem => by simp [blank c mem]

theorem solid_trimStart (cs : List Char) : solid (trimStart cs) = solid cs := by
  obtain ⟨b, blank, eq⟩ := exists_blank cs
  have whole := congrArg solid eq
  rw [solid_append, solid_blank blank, List.nil_append] at whole
  exact whole.symm

theorem solid_reverse (cs : List Char) : solid cs.reverse = (solid cs).reverse :=
  List.filter_reverse ..

@[simp] theorem solid_trim (cs : List Char) : solid (trim cs) = solid cs := by
  have ends := solid_trimStart (trimStart cs).reverse
  rw [trim, trimEnd, solid_reverse]
  rw [trimStart, solid_reverse] at ends
  rw [ends, List.reverse_reverse, solid_trimStart]

/-! ## Segments -/

/-- Segments have the characters of the text that they make up. -/
theorem Parts.solid_eq (h : Parts cs segs) : segs.flatMap Segment.solid = solid cs := by
  induction h with
  | nil => rfl
  | space blank nonempty others ih =>
    rw [List.flatMap_cons, ih, solid_append, solid_blank blank]
    rfl
  | mark noSpace others ih =>
    rw [List.flatMap_cons, ih, solid_cons _ (_ : List Char)]
    rfl
  | verbatim noSpace ends others ih =>
    rw [List.flatMap_cons, ih, ← List.cons_append, solid_append]
    rfl

/-- White space in a tag comes and goes, and all else stays. -/
theorem solid_collapse (quote last : Option Char) (pending : Bool) (cs : List Char) :
    solid (collapse quote last pending cs) = solid cs := by
  have blank (text : List Char) : solid (' ' :: text) = solid text := solid_cons_space (by decide) text
  fun_induction collapse quote last pending cs with
  | case1 => rfl
  | case2 last pending q d rest ih =>
    have pair (text : List Char) : solid ('\\' :: d :: text) = solid ['\\', d] ++ solid text :=
      solid_append ['\\', d] text
    rw [pair, ih, pair rest]
  | case3 last pending q c rest other ih => rw [solid_cons, ih, solid_cons c rest]
  | case4 last pending c rest space ih => rw [ih, solid_cons_space space]
  | case5 last pending c rest noSpace text due ih => rw [blank, solid_cons, ih, solid_cons c rest]
  | case6 last pending c rest noSpace text due ih => rw [solid_cons, ih, solid_cons c rest]

theorem solid_oneLine_segment (seg : Segment) : solid seg.oneLine = seg.solid := by
  cases seg with
  | mark c => rfl
  | space => rfl
  | verbatim text =>
    rw [Segment.oneLine]
    split
    · exact solid_collapse none none false text
    · split
      · exact solid_solid text
      · rfl

theorem solid_oneLine (segs : List Segment) (last : Option Char) (pending : Bool) :
    solid (oneLine last pending segs) = segs.flatMap Segment.solid := by
  induction segs generalizing last pending with
  | nil => rfl
  | cons seg segs ih =>
    by_cases isSpace : seg = .space
    · subst isSpace
      rw [oneLine, ih]
      rfl
    · obtain ⟨b, blank, same⟩ := oneLine_segment isSpace last pending segs
      rw [same, solid_append, solid_blank blank, solid_append, solid_oneLine_segment, ih]
      rfl

theorem solid_writeLine (depth : Nat) (line : List Char) :
    solid (writeLine (depth, line)) = solid line := by
  have tabs : Blank (List.replicate depth '\t') := by
    intro c mem
    rw [List.eq_of_mem_replicate mem]
    rfl
  have newline : Blank ['\n'] := by simp [Blank, isSpace]
  rw [writeLine]
  dsimp only
  split
  · next empty => rw [← solid_trim line, List.isEmpty_iff.1 empty]
  · rw [solid_append, solid_append, solid_blank tabs, solid_blank newline, solid_trim,
      List.nil_append, List.append_nil]

/-- The lines of segments have their characters, after those on the line that is open. -/
theorem solid_written (depth : Nat) (line : List Char) (segs : List Segment) :
    solid (written depth line segs) = solid line ++ segs.flatMap Segment.solid := by
  have cons (depth : Nat) (line : List Char) (rows : List (Nat × List Char)) :
      solid (((depth, line) :: rows).flatMap writeLine)
        = solid line ++ solid (rows.flatMap writeLine) := by
    rw [written_cons, solid_append, solid_writeLine]
  unfold written
  fun_induction lines depth line segs with
  | case1 depth line =>
    rw [cons]
    rfl
  | case2 depth line rest suffix ih => exact ih
  | case3 depth line rest noSuffix ih =>
    rw [cons, ih]
    rfl
  | case4 depth line c rest opens ih =>
    rw [eq_of_beq opens, cons, cons, ih]
    rfl
  | case5 depth line c rest notOpening closes ih =>
    rw [eq_of_beq closes, cons, ih]
    rfl
  | case6 depth line c rest notOpening notClosing bar ih =>
    rw [eq_of_beq bar, cons, cons, ih]
    rfl
  | case7 depth line c rest notOpening notClosing noBar ih =>
    rw [ih, solid_append, List.append_assoc]
    rfl
  | case8 depth line text rest breaks ih =>
    rw [cons, ih]
    rfl
  | case9 depth line text rest joins ih =>
    rw [ih, solid_append, List.append_assoc]
    rfl

/-! ## Layouts -/

/-- The layout over several lines, with the scanner by positions and the turns of its loops
granted. -/
def Cursor.explodeAt {ε : Type} (turns : Nat) (source : String) : Run ε String :=
  (segmentsAt source.toList turns 0).map fun segs => String.ofList (written 0 [] segs)

/-- The layout on one line, with the scanner by positions and the turns of its loops granted. -/
def Cursor.normalizeAt {ε : Type} (turns : Nat) (source : String) : Run ε String :=
  (segmentsAt source.toList turns 0).map fun segs => String.ofList (oneLine none false segs)

/-- Laying out any text ends, with a turn of each loop for each of its characters, and changes white
space only. -/
theorem layouts_keep_solid {ε : Type} (source : String) :
    Cursor.explodeAt source.length source = (.ok (explode source) : Run ε String)
      ∧ Cursor.normalizeAt source.length source = (.ok (normalize source) : Run ε String)
      ∧ solid (explode source).toList = solid source.toList
      ∧ solid (normalize source).toList = solid source.toList := by
  have scanned : Cursor.segmentsAt source.toList source.length 0
      = (.ok (segments source.toList) : Run ε (List Segment)) :=
    Cursor.segmentsAt_eq (Nat.zero_le _) (by rw [Nat.zero_add]; exact Nat.le_refl _)
  have kept := (parts_segments source.toList).solid_eq
  refine ⟨?_, ?_, ?_, ?_⟩
  · rw [Cursor.explodeAt, scanned]
    rfl
  · rw [Cursor.normalizeAt, scanned]
    rfl
  · rw [toList_explode, solid_written, solid_nil, List.nil_append, kept]
  · rw [toList_normalize, solid_oneLine, kept]

end

end SpanSearch.Layout
