import Mathlib
import SourceSurvey.Line.Scan
import SourceSurvey.Proofs.Line.Reading

namespace SourceSurvey.Lexer

open Bytes

/-- What is open, as it is carried from line to line: two flags, and the bytes that close it. -/
structure Carried where
  inComment : Bool := false
  inString : Bool := false
  closer : Bytes := []
  deriving Repr, DecidableEq

def Carried.ofState : ScanState → Carried
  | .clean => {}
  | .comment closer => { inComment := true, closer }
  | .string closer => { inString := true, closer }

/-- Nothing is open and no closer is kept, or one thing is open that the profile has. -/
inductive Carried.Legal (p : Profile) : Carried → Prop
  | clean : Legal p {}
  | comment (b : BlockComment) (h : b ∈ p.blockComments) : Legal p { inComment := true, closer := b.closer }
  | string (f : Bytes) (h : f ∈ p.fences) : Legal p { inString := true, closer := fenceCloser f }

/-- An access that fails: outside the line at a position, or to the first byte of an empty marker. -/
inductive Misread
  | line (position : Nat)
  | marker
  deriving Repr, DecidableEq

def byteAt (s : Bytes) (i : Nat) : Except Misread UInt8 :=
  match s[i]? with
  | some b => .ok b
  | none => .error (.line i)

def lineFrom (line : Bytes) (i : Nat) : Except Misread Bytes :=
  if i ≤ line.length then .ok (line.drop i) else .error (.line i)

def lineBetween (line : Bytes) (i j : Nat) : Except Misread Bytes :=
  if i ≤ j ∧ j ≤ line.length then .ok ((line.take j).drop i) else .error (.line j)

def commentStarts (line : Bytes) (i : Nat) : List Bytes → Except Misread Bool
  | [] => .ok false
  | m :: ms => do
    if !(← lineFrom line i).startsWith m then commentStarts line i ms
    else
      match m with
      | [] => .error .marker
      | first :: _ =>
        if first = 35 ∧ 0 < i then
          if isGlue (← byteAt line (i - 1)) then commentStarts line i ms else .ok true
        else .ok true

def closingQuote (line : Bytes) (q : UInt8) (i : Nat) : Except Misread (Option Nat) :=
  if i < line.length then do
    let b ← byteAt line i
    if b = 92 then closingQuote line q (i + 2)
    else if b = q then .ok (some i)
    else closingQuote line q (i + 1)
  else .ok none
termination_by line.length - i

structure Cursor where
  position : Nat
  carried : Carried
  written : Bytes
  deriving Repr, DecidableEq

inductive Turn
  | moved (c : Cursor)
  | ended (code : Bytes) (carried : Carried)
  deriving Repr, DecidableEq

def closing (rest : Bytes) (c : Cursor) (added : Bytes) : Turn :=
  match rest.position? c.carried.closer with
  | none => .ended c.written c.carried
  | some j => .moved ⟨c.position + (j + c.carried.closer.length), {}, c.written ++ added⟩

def copying (p : Profile) (line : Bytes) (c : Cursor) : Except Misread Turn := do
  if ← commentStarts line c.position p.lineComments then .ok (.ended c.written c.carried)
  else
    let b ← byteAt line c.position
    if p.quotes.contains b then
      match ← closingQuote line b (c.position + 1) with
      | none => .ok (.ended (c.written ++ [b, b]) c.carried)
      | some j => .ok (.moved ⟨j + 1, c.carried, c.written ++ [b, b]⟩)
    else .ok (.moved ⟨c.position + 1, c.carried, c.written ++ [b]⟩)

def turn (p : Profile) (line : Bytes) (c : Cursor) : Except Misread Turn :=
  if line.length ≤ c.position then .ok (.ended c.written c.carried)
  else do
    let rest ← lineFrom line c.position
    if c.carried.inComment then .ok (closing rest c [space])
    else if c.carried.inString then .ok (closing rest c c.carried.closer)
    else
      match blockAt? p rest with
      | some b => .ok (.moved ⟨c.position + b.opener.length, { inComment := true, closer := b.closer }, c.written⟩)
      | none =>
        match fenceAt? p rest with
        | some f =>
          let fence ← lineBetween line c.position (c.position + f.length)
          .ok (.moved ⟨c.position + f.length, { inString := true, closer := fenceCloser f }, c.written ++ fence⟩)
        | none => copying p line c

def turns (p : Profile) (line : Bytes) : (n : Nat) → Cursor → Except Misread Turn
  | 0, c => .ok (.moved c)
  | n + 1, c =>
    match turn p line c with
    | .ok (.moved c) => turns p line n c
    | outcome => outcome

variable {p : Profile} {passed rest line closer : Bytes} {b q : UInt8} {c : Cursor} {w x : Walk}

theorem ok_bind {α β : Type} (a : α) (f : α → Except Misread β) : (.ok a >>= f) = f a := rfl

theorem byteAt_passed (passed : Bytes) (b : UInt8) (r : Bytes) : byteAt (passed ++ b :: r) passed.length = .ok b := by
  simp [byteAt]

theorem byteAt_before (h : passed.getLast? = some b) (r : Bytes) :
    byteAt (passed ++ r) (passed.length - 1) = .ok b := by
  obtain ⟨before, rfl⟩ := List.getLast?_eq_some_iff.mp h
  simp [byteAt]

theorem lineFrom_passed (passed rest : Bytes) : lineFrom (passed ++ rest) passed.length = .ok rest := by
  simp [lineFrom]

theorem lineBetween_passed (passed part rest : Bytes) :
    lineBetween (passed ++ (part ++ rest)) passed.length (passed.length + part.length) = .ok part := by
  rw [lineBetween, if_pos (by simp), ← List.append_assoc, ← List.length_append, List.take_left, List.drop_left]

theorem commentStarts_passed {ms : List Bytes} (h : ∀ m ∈ ms, m ≠ []) (passed rest : Bytes) :
    commentStarts (passed ++ rest) passed.length ms =
      .ok (ms.any fun m => rest.startsWith m && !(m.head? = some 35 && (passed.getLast?.map isGlue).getD false)) := by
  induction ms with
  | nil => rfl
  | cons m ms ih =>
      obtain ⟨hm, hms⟩ := List.forall_mem_cons.mp h
      obtain ⟨first, others, rfl⟩ := List.exists_cons_of_ne_nil hm
      rw [commentStarts, lineFrom_passed, ok_bind, List.any_cons, ih hms]
      by_cases hstarts : rest.startsWith (first :: others)
      · rcases List.eq_nil_or_concat passed with rfl | ⟨before, a, rfl⟩
        · simp [hstarts]
        · rw [byteAt_before (b := a) (by simp)]
          by_cases hfirst : first = 35
          · subst hfirst
            cases hglue : isGlue a <;> simp [hstarts, hglue, ok_bind]
          · simp [hstarts, hfirst]
      · simp [hstarts]

theorem afterQuote?_closes {s r : Bytes} (h : afterQuote? q s = some r) : ∃ body, s = body ++ q :: r := by
  fun_induction afterQuote? q s with
  | case1 => simp at h
  | case2 => simp at h
  | case3 d s ih =>
      obtain ⟨body, rfl⟩ := ih h
      exact ⟨92 :: d :: body, rfl⟩
  | case4 s => exact ⟨[], by rw [Option.some.inj h, List.nil_append]⟩
  | case5 c s _ _ ih =>
      obtain ⟨body, rfl⟩ := ih h
      exact ⟨c :: body, rfl⟩

theorem closingQuote_passed (q : UInt8) (passed rest : Bytes) : closingQuote (passed ++ rest) q passed.length =
    .ok ((afterQuote? q rest).map fun r => (passed ++ rest).length - (r.length + 1)) := by
  fun_induction afterQuote? q rest generalizing passed with
  | case1 => rw [closingQuote, if_neg (by simp), Option.map_none]
  | case2 =>
      rw [closingQuote, if_pos (by simp), byteAt_passed, ok_bind, if_pos rfl, closingQuote, if_neg (by simp),
        Option.map_none]
  | case3 d s ih =>
      have hhidden := ih (passed ++ [92, d])
      rw [List.append_assoc] at hhidden
      rw [closingQuote, if_pos (by simp), byteAt_passed, ok_bind, if_pos rfl]
      simpa using hhidden
  | case4 s hback =>
      rw [closingQuote, if_pos (by simp), byteAt_passed, ok_bind, if_neg hback, if_pos rfl]
      simp
  | case5 c s hback hquote ih =>
      have hnext := ih (passed ++ [c])
      rw [List.append_assoc] at hnext
      rw [closingQuote, if_pos (by simp), byteAt_passed, ok_bind, if_neg hback, if_neg hquote]
      simpa using hnext

def Walk.cursor (passed : Bytes) (w : Walk) : Cursor := ⟨passed.length, .ofState w.state, w.written.reverse⟩

/-- A turn from where a walk stands ends with what the walk comes to, or it passes a part of the line and stands where
the walk stands after its next step. -/
inductive TurnsLike (p : Profile) (passed : Bytes) (w : Walk) : Turn → Prop
  | ended (code : Bytes) (state : ScanState) (h : run p w = (code, state)) :
      TurnsLike p passed w (.ended code (.ofState state))
  | moved (c : Cursor) (x : Walk) (part : Bytes) (hnext : next? p w = some x) (hrest : w.rest = part ++ x.rest)
      (hbefore : x.before = (passed ++ part).getLast?) (hc : c = x.cursor (passed ++ part)) :
      TurnsLike p passed w (.moved c)

theorem blockAt?_passes {s : Bytes} {block : BlockComment} (h : blockAt? p s = some block) :
    block ∈ p.blockComments ∧ block.opener ≠ [] ∧ ∃ r, s = block.opener ++ r := by
  obtain ⟨hfound, hne⟩ := Option.filter_eq_some_iff.mp h
  have hstarts := List.find?_some (p := fun b : BlockComment => s.startsWith b.opener) hfound
  exact ⟨List.mem_of_find?_eq_some hfound, by simpa using hne, startsWith_iff.mp hstarts⟩

theorem fenceAt?_passes {s f : Bytes} (h : fenceAt? p s = some f) : f ∈ p.fences ∧ f ≠ [] ∧ ∃ r, s = f ++ r := by
  obtain ⟨hfound, hne⟩ := Option.filter_eq_some_iff.mp h
  exact ⟨List.mem_of_find?_eq_some hfound, by simpa using hne, startsWith_iff.mp (List.find?_some hfound)⟩

theorem closing_cursor {added : Bytes} (hbefore : w.before = passed.getLast?)
    (hcloser : (Carried.ofState w.state).closer = closer)
    (hnext : next? p w = (cut? w.rest closer).map fun found =>
      ⟨(found.1 ++ closer).getLast?.or w.before, .clean, added.reverse ++ w.written, found.2⟩) :
    TurnsLike p passed w (closing w.rest (w.cursor passed) added) := by
  subst hcloser
  simp only [closing, Walk.cursor, position?]
  cases hcut : cut? w.rest (Carried.ofState w.state).closer with
  | none => exact .ended _ _ (run_of_end (by rw [hnext, hcut, Option.map_none]))
  | some found =>
      obtain ⟨before, after⟩ := found
      rw [hcut, Option.map_some] at hnext
      refine .moved _ _ _ hnext (cut?_spec hcut) ?_ ?_
      · exact (congrArg _ hbefore).trans List.getLast?_append.symm
      · simp [Walk.cursor, Carried.ofState]

theorem opening_cursor (passed : Bytes) {opener after written r : Bytes} {state : ScanState} (hne : opener ≠ [])
    (hrest : w.rest = opener ++ after) (hr : w.rest = b :: r)
    (hnext : next? p w = some ⟨opener.getLast?, state, written, r.drop (opener.length - 1)⟩) :
    TurnsLike p passed w (.moved ⟨passed.length + opener.length, .ofState state, written.reverse⟩) := by
  have hdrop : r.drop (opener.length - 1) = after := by
    obtain ⟨a, others, rfl⟩ := List.exists_cons_of_ne_nil hne
    rw [(List.cons.inj (hr.symm.trans hrest)).2]
    simp
  rw [hdrop] at hnext
  refine .moved _ _ opener hnext hrest (List.getLast?_append_of_ne_nil _ hne).symm ?_
  simp [Walk.cursor]

theorem copying_cursor {written r : Bytes} (hmarkers : ∀ m ∈ p.lineComments, m ≠ [])
    (hblock : blockAt? p (b :: r) = none) (hfence : fenceAt? p (b :: r) = none) :
    ∃ t, copying p (passed ++ b :: r) ⟨passed.length, {}, written.reverse⟩ = .ok t ∧
      TurnsLike p passed ⟨passed.getLast?, .clean, written, b :: r⟩ t := by
  have hcomment : commentStarts (passed ++ b :: r) passed.length p.lineComments =
      .ok (commentAt p passed.getLast? (b :: r)) := commentStarts_passed hmarkers passed (b :: r)
  have hclosing := closingQuote_passed b (passed ++ [b]) r
  rw [List.append_assoc, List.singleton_append, List.length_append, List.length_singleton] at hclosing
  simp only [copying, hcomment, byteAt_passed, hclosing, ok_bind]
  by_cases hstarts : commentAt p passed.getLast? (b :: r)
  · rw [if_pos hstarts]
    exact ⟨_, rfl, .ended _ .clean (run_of_end (by simp [next?, hblock, hfence, hstarts]))⟩
  rw [if_neg hstarts]
  -- A literal that is closed is passed in one turn; one that is not takes the rest of the line.
  by_cases hquote : p.quotes.contains b
  · have hnext : next? p ⟨passed.getLast?, .clean, written, b :: r⟩ =
        some ⟨some b, .clean, b :: b :: written, (afterQuote? b r).getD []⟩ := by
      simp only [next?, hblock, hfence, hstarts, hquote, if_true, Bool.false_eq_true, if_false]
    rw [if_pos hquote]
    cases hafter : afterQuote? b r with
    | none =>
        rw [hafter] at hnext
        refine ⟨_, rfl, .ended _ .clean ?_⟩
        rw [run_of_next? hnext, run_of_end rfl]
        simp
    | some after =>
        obtain ⟨body, rfl⟩ := afterQuote?_closes hafter
        rw [hafter] at hnext
        refine ⟨_, rfl, .moved _ _ (b :: body ++ [b]) hnext (by simp) ?_ ?_⟩
        · rw [← List.append_assoc, List.getLast?_concat]
        · simp [Walk.cursor, Carried.ofState]
          omega
  · have hnext : next? p ⟨passed.getLast?, .clean, written, b :: r⟩ = some ⟨some b, .clean, b :: written, r⟩ := by
      simp only [next?, hblock, hfence, hstarts, hquote, Bool.false_eq_true, if_false]
    rw [if_neg hquote]
    refine ⟨_, rfl, .moved _ _ [b] hnext rfl ?_ ?_⟩
    · rw [List.getLast?_concat]
    · simp [Walk.cursor, Carried.ofState]

theorem turn_cursor (hmarkers : ∀ m ∈ p.lineComments, m ≠ []) (hbefore : w.before = passed.getLast?) :
    ∃ t, turn p (passed ++ w.rest) (w.cursor passed) = .ok t ∧ TurnsLike p passed w t := by
  obtain ⟨before, state, written, rest⟩ := w
  subst hbefore
  cases rest with
  | nil => exact ⟨_, if_pos (by simp [Walk.cursor]), .ended _ _ (run_of_end rfl)⟩
  | cons b r =>
      have hinside : ¬(passed ++ b :: r).length ≤ passed.length := by simp
      simp only [turn, Walk.cursor, if_neg hinside, lineFrom_passed, ok_bind]
      cases state with
      | comment closer => exact ⟨_, rfl, closing_cursor rfl rfl rfl⟩
      | string closer => exact ⟨_, rfl, closing_cursor rfl rfl rfl⟩
      | clean =>
          simp only [Carried.ofState, Bool.false_eq_true, if_false]
          cases hblock : blockAt? p (b :: r) with
          | some block =>
              obtain ⟨-, hne, after, hrest⟩ := blockAt?_passes hblock
              have hnext : next? p ⟨passed.getLast?, .clean, written, b :: r⟩ =
                  some ⟨block.opener.getLast?, .comment block.closer, written, r.drop (block.opener.length - 1)⟩ := by
                simp [next?, hblock]
              exact ⟨_, rfl, opening_cursor passed hne hrest rfl hnext⟩
          | none =>
              cases hfence : fenceAt? p (b :: r) with
              | some f =>
                  obtain ⟨-, hne, after, hrest⟩ := fenceAt?_passes hfence
                  have hnext : next? p ⟨passed.getLast?, .clean, written, b :: r⟩ = some
                      ⟨f.getLast?, .string (fenceCloser f), f.reverse ++ written, r.drop (f.length - 1)⟩ := by
                    simp [next?, hblock, hfence]
                  have hopening := opening_cursor passed hne hrest rfl hnext
                  rw [List.reverse_append, List.reverse_reverse] at hopening
                  simp only [hrest, lineBetween_passed, ok_bind]
                  exact ⟨_, rfl, hrest ▸ hopening⟩
              | none => exact copying_cursor hmarkers hblock hfence

theorem Carried.Legal.next? (h : (Carried.ofState w.state).Legal p) (hnext : Lexer.next? p w = some x) :
    (Carried.ofState x.state).Legal p := by
  obtain ⟨before, state, written, rest⟩ := w
  cases rest with
  | nil => simp [Lexer.next?] at hnext
  | cons b r =>
      cases state with
      | comment closer | string closer =>
          obtain ⟨found, -, rfl⟩ := Option.map_eq_some_iff.mp hnext
          exact .clean
      | clean =>
          simp only [Lexer.next?] at hnext
          split at hnext
          · rename_i block hblock
            cases hnext
            exact .comment block (blockAt?_passes hblock).1
          split at hnext
          · rename_i f hfence
            cases hnext
            exact .string f (fenceAt?_passes hfence).1
          split at hnext
          · cases hnext
          split at hnext <;> cases hnext <;> exact .clean

def Walk.size (w : Walk) : Nat := 2 * w.rest.length + w.state.depth

theorem next?_size (h : next? p w = some x) : x.size < w.size := by
  have hdepth : x.state.depth ≤ 1 := by cases x.state <;> simp [ScanState.depth]
  rw [Walk.size, Walk.size]
  obtain hshorter | ⟨hsame, hcloses⟩ := Prod.lex_def.mp (next?_decreases h) <;> simp only at * <;> omega

/-- After some turns the walk has ended, or it stands within the line with something legal open, and every turn has
brought it nearer to the end. -/
inductive Turned (p : Profile) (passed : Bytes) (w : Walk) (n : Nat) : Turn → Prop
  | ended (code : Bytes) (state : ScanState) (h : run p w = (code, state)) :
      Turned p passed w n (.ended code (.ofState state))
  | moved (c : Cursor) (x : Walk) (part : Bytes) (hrest : w.rest = part ++ x.rest)
      (hlegal : (Carried.ofState x.state).Legal p) (hsize : x.size + n ≤ w.size)
      (hc : c = x.cursor (passed ++ part)) : Turned p passed w n (.moved c)

theorem turns_cursor (hmarkers : ∀ m ∈ p.lineComments, m ≠ []) (hbefore : w.before = passed.getLast?)
    (hlegal : (Carried.ofState w.state).Legal p) (n : Nat) :
    ∃ t, turns p (passed ++ w.rest) n (w.cursor passed) = .ok t ∧ Turned p passed w n t := by
  induction n generalizing passed w with
  | zero => exact ⟨_, rfl, .moved _ w [] rfl hlegal (Nat.le_refl w.size) (by rw [List.append_nil])⟩
  | succ n ih =>
      obtain ⟨t, hturn, hlike⟩ := turn_cursor hmarkers hbefore
      rw [turns, hturn]
      cases hlike with
      | ended code state h => exact ⟨_, rfl, .ended code state h⟩
      | moved c x part hnext hrest hbefore hc =>
          have hsize := next?_size hnext
          obtain ⟨t, hturns, hturned⟩ := ih hbefore (hlegal.next? hnext)
          refine ⟨t, by rw [hrest, hc, ← List.append_assoc]; exact hturns, ?_⟩
          cases hturned with
          | ended code state h => exact .ended code state ((run_of_next? hnext).trans h)
          | moved d y more hmore hlegal hless hd =>
              refine .moved d y (part ++ more) (by rw [hrest, hmore, List.append_assoc]) hlegal (by omega) ?_
              rw [hd, List.append_assoc]

theorem legal_line {state : ScanState} (h : (Carried.ofState state).Legal p) (s : Bytes) :
    (Carried.ofState (Lexer.line p state s).2).Legal p := by
  obtain ⟨x, hx, hrun⟩ := run_invariant
    (fun w x (hw : (Carried.ofState w.state).Legal p) hnext => hw.next? hnext) ⟨none, state, [], s⟩ h
  have hline : Lexer.line p state s = (x.written.reverse, x.state) := hrun
  rw [hline]
  exact hx

theorem legal_classify {state : ScanState} (h : (Carried.ofState state).Legal p) (text : Bytes) :
    (Carried.ofState (Line.classify p state text).2.2).Legal p := by
  unfold Line.classify
  dsimp only
  split
  · exact h
  split
  · exact legal_line h text
  · exact legal_line h text
  split
  · exact legal_line h text
  split
  · exact h
  · exact legal_line h text

theorem legal_stateAfter {state : ScanState} (h : (Carried.ofState state).Legal p) (raws : List Bytes) :
    (Carried.ofState (Line.stateAfter p state raws)).Legal p := by
  induction raws generalizing state with
  | nil => exact h
  | cons raw raws ih => exact ih (legal_classify h (Line.chomp raw))

theorem start_of_readAll {number k : Nat} {state : ScanState} {raws : List Bytes} {l : Line}
    (h : (Line.readAll p number state raws)[k]? = some l) : l.start = Line.stateAfter p state (raws.take k) := by
  induction raws generalizing number state k with
  | nil => simp [Line.readAll] at h
  | cons raw raws ih =>
      rw [Line.readAll_cons] at h
      cases k with
      | zero =>
          cases h
          rfl
      | succ k => exact ih h

/-- The walk over any line comes to its end, from whatever a scan of a text may leave open in front of the line. It takes
at most two turns for a byte, it reads nothing outside the line, and it finds the line's code and the state after it.
All along either nothing is open and no closer is kept, or one thing is open that the profile has, with its closer. -/
theorem line_turns (p : Profile) (hmarkers : ∀ m ∈ p.lineComments, m ≠ []) (text : Bytes) (k : Nat) (s : Bytes) :
    let state := Line.stateAfter p .clean ((Line.split text).take k)
    let found := Lexer.line p state s
    (∀ l ∈ (Line.scan p text)[k]?, l.start = state) ∧
      (Carried.ofState state).Legal p ∧
      (∀ n, ∃ t, turns p s n ⟨0, .ofState state, []⟩ = .ok t ∧
        ∀ c, t = .moved c → c.position ≤ s.length ∧ c.carried.Legal p) ∧
      turns p s (2 * s.length + 2) ⟨0, .ofState state, []⟩ = .ok (.ended found.1 (.ofState found.2)) ∧
      (Carried.ofState found.2).Legal p := by
  intro state found
  have hlegal : (Carried.ofState state).Legal p := legal_stateAfter .clean _
  have hbefore : (Walk.mk none state [] s).before = ([] : Bytes).getLast? := rfl
  have hturns := turns_cursor hmarkers hbefore hlegal
  refine ⟨fun l hl => start_of_readAll hl, hlegal, fun n => ?_, ?_, legal_line hlegal s⟩
  · obtain ⟨t, ht, hturned⟩ := hturns n
    refine ⟨t, ht, ?_⟩
    rintro c rfl
    cases hturned with
    | moved _ x part hrest hx hsize hc =>
        subst hc
        refine ⟨?_, hx⟩
        have hlength : s.length = (part ++ x.rest).length := congrArg List.length hrest
        simp [Walk.cursor, hlength]
  · obtain ⟨t, ht, hturned⟩ := hturns (2 * s.length + 2)
    -- Every turn brings the walk nearer to the end, and there are more turns than it is away from it.
    have hdepth : state.depth ≤ 1 := by cases state <;> simp [ScanState.depth]
    cases hturned with
    | ended code after h =>
        have hfound : found = (code, after) := h
        rw [hfound]
        exact ht
    | moved c x part hrest hx hsize hc =>
        simp only [Walk.size] at hsize
        omega

def openEnded : Profile :=
  { id := "open-ended", lineComments := [utf8 "#"], blockComments := [⟨utf8 "<", []⟩], fences := [[], utf8 "[["]
    quotes := utf8 "\"" }

theorem line_turns_openEnded : (∀ m ∈ openEnded.lineComments, m ≠ []) ∧
    turns openEnded (utf8 "b\"\\\"") 10 ⟨0, { inComment := true }, []⟩ = .ok (.ended (utf8 " b\"\"") {}) := by
  have hmarkers : ∀ m ∈ openEnded.lineComments, m ≠ [] := by decide
  have hstate : Line.stateAfter openEnded .clean ((Line.split (utf8 "a <\nb")).take 1) = .comment [] := by cbv
  have hfound : Lexer.line openEnded (.comment []) (utf8 "b\"\\\"") = (utf8 " b\"\"", .clean) := by cbv
  obtain ⟨-, -, -, hended, -⟩ := line_turns openEnded hmarkers (utf8 "a <\nb") 1 (utf8 "b\"\\\"")
  rw [hstate, hfound] at hended
  exact ⟨hmarkers, hended⟩

end SourceSurvey.Lexer
