import RowTemplate.Proofs.Span.Verbatim

/-! # Rebuilding texts

A text is the plain parts between its spans and the spans. Replacing calls a
function on the bodies in order, up to the first failure, and puts what it
returns in the places of the spans; every other byte stays where it was. A walk
that copies the text up to each span that it finds, puts a text in the place of
the span and copies the rest in the end comes to the same.
-/

namespace RowTemplate

/-! ### Calls in order -/

section Calls

variable {σ ε α β : Type}

/-- Calls of a function on the members of a list in order, each once and from the state that the
call before it left, up to the first that fails. -/
inductive Calls (f : α → ExceptT ε (StateM σ) β) :
    List α → σ → Except ε (List β) → σ → Prop
  | done (st : σ) : Calls f [] st (.ok []) st
  | failed {a : α} {as : List α} {e : ε} {st st' : σ} : (f a).run.run st = (.error e, st') →
    Calls f (a :: as) st (.error e) st'
  | returned {a : α} {as : List α} {b : β} {outcome : Except ε (List β)} {st st' st'' : σ} :
    (f a).run.run st = (.ok b, st') → Calls f as st' outcome st'' →
    Calls f (a :: as) st (outcome.map (b :: ·)) st''

theorem run_map (g : α → β) (act : ExceptT ε (StateM σ) α) (st : σ) :
    (g <$> act).run.run st = ((act.run.run st).1.map g, (act.run.run st).2) := by
  rw [ExceptT.run_map, StateT.run_map]
  rfl

theorem calls_mapM (f : α → ExceptT ε (StateM σ) β) (as : List α) (st : σ) :
    Calls f as st ((as.mapM f).run.run st).1 ((as.mapM f).run.run st).2 := by
  induction as generalizing st with
  | nil => exact .done st
  | cons a as ih =>
    rcases h : (f a).run.run st with ⟨e | b, st'⟩
    · have hrun : ((a :: as).mapM f).run.run st = (.error e, st') := by
        rw [List.mapM_cons, ExceptT.run_bind, StateT.run_bind, h]
        rfl
      rw [hrun]
      exact .failed h
    · have hrun : ((a :: as).mapM f).run.run st =
          (((as.mapM f).run.run st').1.map (b :: ·), ((as.mapM f).run.run st').2) := by
        rw [List.mapM_cons, ExceptT.run_bind, StateT.run_bind, h]
        change (as.mapM f >>= fun bs => pure (b :: bs)).run.run st' = _
        rw [← map_eq_pure_bind, run_map]
      rw [hrun]
      exact .returned h (ih st')

theorem Calls.length_eq {f : α → ExceptT ε (StateM σ) β} {as : List α} {bs : List β}
    {outcome : Except ε (List β)} {st st' : σ} (h : Calls f as st outcome st')
    (hok : outcome = .ok bs) : bs.length = as.length := by
  induction h generalizing bs with
  | done => cases hok; rfl
  | failed => cases hok
  | @returned a as b outcome _ _ _ _ _ ih =>
    cases outcome with
    | error e => cases hok
    | ok cs =>
      cases hok
      rw [List.length_cons, List.length_cons, ih rfl]

end Calls

/-! ### The parts of a text -/

section Parts

/-- The bodies of the spans among some parts. -/
def bodies : List Segment → List (List Char)
  | [] => []
  | .plain _ :: parts => bodies parts
  | .span body :: parts => body :: bodies parts

/-- The text of some parts with given texts in the places of the spans, one for each. -/
def fill : List Segment → List (List Char) → List Char
  | .plain s :: parts, texts => s ++ fill parts texts
  | .span _ :: parts, text :: texts => text ++ fill parts texts
  | _, _ => []

theorem fill_spanText (s : List Char) :
    fill (segments s) ((bodies (segments s)).map spanText) = s := by
  induction s using segments.induct with
  | case1 s split h _ ih =>
    rw [segments_of_some h, bodies, bodies, List.map_cons, fill, fill, ih, firstSpan?_eq h,
      List.append_assoc]
  | case2 s h => simp [segments_of_none h, bodies, fill]

variable {m : Type → Type} [Monad m] [LawfulMonad m]

theorem flatten_mapM_parts {replace : List Char → m (List Char)} {part : Segment → m (List Char)}
    (hplain : ∀ t, part (.plain t) = pure t) (hspan : ∀ body, part (.span body) = replace body)
    (parts : List Segment) :
    List.flatten <$> parts.mapM part = fill parts <$> (bodies parts).mapM replace := by
  induction parts with
  | nil => simp [bodies, fill]
  | cons first parts ih =>
    cases first with
    | plain t =>
      calc List.flatten <$> (Segment.plain t :: parts).mapM part
          = (t ++ ·) <$> List.flatten <$> parts.mapM part := by
            simp [List.mapM_cons, hplain, Functor.map_map]
        _ = fill (.plain t :: parts) <$> (bodies (.plain t :: parts)).mapM replace := by
            rw [ih]
            simp [bodies, fill, Functor.map_map]
    | span body =>
      calc List.flatten <$> (Segment.span body :: parts).mapM part
          = replace body >>= fun text => (text ++ ·) <$> List.flatten <$> parts.mapM part := by
            simp [List.mapM_cons, hspan, Functor.map_map]
        _ = fill (.span body :: parts) <$> (bodies (.span body :: parts)).mapM replace := by
            rw [ih]
            simp [bodies, fill, List.mapM_cons, Functor.map_map]

/-- Replacing collects the texts for the bodies in order and puts them in the places of the
spans. -/
theorem replaceSpans_eq (replace : List Char → m (List Char)) (s : List Char) :
    replaceSpans replace s = fill (segments s) <$> (bodies (segments s)).mapM replace := by
  rw [replaceSpans, ← map_eq_pure_bind]
  exact flatten_mapM_parts (fun _ => rfl) (fun _ => rfl) _

theorem replaceSpans_spanText (s : List Char) :
    replaceSpans (fun body => (pure (spanText body) : m (List Char))) s = pure s := by
  rw [replaceSpans_eq, List.mapM_pure, map_pure, fill_spanText]

end Parts

/-! ### Walks that copy -/

/-- What is left of the bytes behind the place `mark`, with each span replaced by a text. -/
def patch (bytes : List UInt8) (mark : Nat) : List (Span × List Char) → List UInt8
  | [] => bytes.drop mark
  | (span, new) :: rest =>
    (bytes.drop mark).take (span.start - mark) ++ utf8 new ++ patch bytes span.stop rest

namespace Scanner

variable {m : Type → Type} [Monad m] {text : String} {seen : List Char} {w : Scanner}

/-- The text with every span replaced, put together while the walk goes on: the text before each
span and the text in its place, and in the end what is left. -/
def rebuild (replace : List Char → m (List Char)) (w : Scanner) (out : List Char) :
    m (List Char) :=
  match h : w.find with
  | (some span, w') => do
    have := length_rest_find h
    let new ← replace span.body
    rebuild replace w' (w'.replace out new)
  | (none, w') => return w'.tail out
termination_by w.rest.length

theorem rebuild_of_none (replace : List Char → m (List Char)) (out : List Char)
    (h : firstSpan? w.rest = none) : w.rebuild replace out = pure (out ++ w.rest) := by
  rw [rebuild]
  split
  case h_1 hfind =>
    rw [find_none h] at hfind
    cases hfind
  case h_2 hfind =>
    rw [find_none h] at hfind
    cases hfind
    rfl

theorem rebuild_of_some {w' : Scanner} {span : Span} (replace : List Char → m (List Char))
    (out : List Char) (h : w.find = (some span, w')) :
    w.rebuild replace out =
      replace span.body >>= fun new => w'.rebuild replace (w'.replace out new) := by
  rw [rebuild]
  split
  case h_1 hfind =>
    rw [h] at hfind
    cases hfind
    rfl
  case h_2 hfind =>
    rw [h] at hfind
    cases hfind

/-- What a walk has copied stands before what replacing makes of the rest of the text. -/
theorem rebuild_eq [LawfulMonad m] (replace : List Char → m (List Char)) (w : Scanner)
    (out : List Char) :
    w.rebuild replace out = (out ++ ·) <$> replaceSpans replace w.rest := by
  generalize hs : w.rest = s
  induction s using segments.induct generalizing w out with
  | case1 s split h _ ih =>
    subst hs
    have hnext (unread gap out' : List Char) (mark stop : Nat) :
        rebuild replace ⟨unread, gap, split.after, mark, stop⟩ out' =
          (out' ++ fill (segments split.after) ·) <$>
            (bodies (segments split.after)).mapM replace := by
      rw [ih _ out' rfl, replaceSpans_eq, Functor.map_map]
    rw [rebuild_of_some replace out (find_some h), replaceSpans_eq, segments_of_some h]
    simp [hnext, Scanner.replace, bodies, fill, List.mapM_cons, Functor.map_map]
  | case2 s h =>
    subst hs
    rw [rebuild_of_none replace out h, replaceSpans_eq, segments_of_none h]
    simp [bodies, fill]

theorem map_body_spans (w : Scanner) : w.spans.map Span.body = bodies (segments w.rest) := by
  generalize hs : w.rest = s
  induction s using segments.induct generalizing w with
  | case1 s split h _ ih =>
    subst hs
    rw [spans_of_some (find_some h), segments_of_some h, List.map_cons, ih _ rfl, bodies, bodies]
  | case2 s h =>
    subst hs
    rw [spans_of_none h, segments_of_none h, List.map_nil, bodies, bodies]

/-- The bytes of a filled text are those of the text but for the spans. -/
theorem utf8_fill (h : Passed text seen w) {texts : List (List Char)}
    (hlen : texts.length = w.spans.length) :
    utf8 (fill (segments w.rest) texts) =
      patch text.toUTF8.data.toList w.stop (w.spans.zip texts) := by
  generalize hs : w.rest = s
  induction s using segments.induct generalizing w seen texts with
  | case1 s split hsplit _ ih =>
    subst hs
    have hfind := find_some hsplit
    rw [spans_of_some hfind] at hlen ⊢
    obtain ⟨new, texts, rfl⟩ := List.exists_cons_of_length_eq_add_one hlen
    have hgap : (utf8 w.rest).take (byteWidth split.before) = utf8 split.before := by
      rw [firstSpan?_eq hsplit, utf8_append, utf8_append, List.append_assoc, ← length_utf8,
        List.take_left]
    have hpassed := h.find_of_some hsplit
    rw [hfind] at hpassed
    have hrest := ih hpassed (Nat.succ.inj hlen) rfl
    rw [segments_of_some hsplit, fill, fill, utf8_append, utf8_append, hrest, List.zip_cons_cons,
      patch, h.drop_bytes, Nat.add_sub_cancel_left, hgap, List.append_assoc]
  | case2 s hnone =>
    subst hs
    rw [spans_of_none hnone] at hlen ⊢
    rw [List.eq_nil_of_length_eq_zero hlen, segments_of_none hnone, List.zip_nil_left, patch,
      h.drop_bytes]
    simp [fill]

end Scanner

/-- Replacing calls the function on the bodies of the spans, in order and each once, and fails with
the first failure of a call. Otherwise the bytes of the text stay where they are but for the spans,
in the places of which stand those of the texts returned. A text of which each span is replaced by
itself is as it was, and a walk that copies while it goes on comes to what replacing comes to. -/
theorem replaceSpans_in_place {σ ε : Type} (text : String)
    (replace : List Char → ExceptT ε (StateM σ) (List Char)) (st : σ) :
    (∃ outcome st', Calls replace ((spans text.toList).map Span.body) st outcome st' ∧
      match outcome with
      | .error e => (replaceSpans replace text.toList).run.run st = (.error e, st')
      | .ok texts => texts.length = (spans text.toList).length ∧
        ∃ out, (replaceSpans replace text.toList).run.run st = (.ok out, st') ∧
          utf8 out = patch text.toUTF8.data.toList 0 ((spans text.toList).zip texts)) ∧
    replaceSpans (fun body => (pure (spanText body) : ExceptT ε (StateM σ) (List Char)))
      text.toList = pure text.toList ∧
    (Scanner.start text.toList).rebuild replace [] = replaceSpans replace text.toList := by
  refine ⟨?_, replaceSpans_spanText text.toList, ?_⟩
  · have hbodies : (spans text.toList).map Span.body = bodies (segments text.toList) :=
      Scanner.map_body_spans _
    rw [replaceSpans_eq, run_map, ← hbodies]
    have hcalls := calls_mapM replace ((spans text.toList).map Span.body) st
    refine ⟨_, _, hcalls, ?_⟩
    generalize (((spans text.toList).map Span.body).mapM replace).run.run st = run at hcalls ⊢
    obtain ⟨_ | texts, st'⟩ := run
    · rfl
    · have hlen : texts.length = (spans text.toList).length := by
        rw [hcalls.length_eq rfl, List.length_map]
      have hstart : Scanner.Passed text [] (.start text.toList) := ⟨rfl, rfl⟩
      exact ⟨hlen, _, rfl, Scanner.utf8_fill hstart hlen⟩
  · rw [Scanner.rebuild_eq]
    exact id_map _

/-- A dollar sign in front of a span, a span between braces and a span without an end. -/
example :
    replaceSpans (fun body => some (body ++ body)) "$$\x7ba\x7d\x7b$\x7b\x7b\x7d\x7d\x7d$\x7bé".toList =
      some "$aa\x7b\x7b\x7d\x7b\x7d\x7d$\x7bé".toList := by
  cbv

end RowTemplate
