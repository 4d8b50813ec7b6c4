import RowTemplate.Template.Chain

/-! # The history of a chain

A chain keeps one of three states, whatever branches it meets and whatever their
conditions come to, a failure included. What it does with a branch is still
decided by all that it has met before: by the last `if` that has begun a chain,
by the `else` that has ended one, and by the branch that has been taken.
-/

namespace RowTemplate.Chain

/-- A branch that a chain meets, and what the test of a condition comes to. -/
structure Call where
  branch : Branch
  test : String → Except ExpandError Bool

/-- What has come of a call: whether the branch is taken or how the step has failed, and the
conditions that it has tested. -/
structure Event extends Call where
  result : Except ExpandError Bool
  tested : List String

/-- A test that notes the conditions it is given. -/
def noted (test : String → Except ExpandError Bool) (e : String) :
    ExceptT ExpandError (StateM (Chain × List String)) Bool := do
  modify fun (chain, tested) => (chain, tested ++ [e])
  match test e with
  | .ok taken => return taken
  | .error failure => throw failure

/-- A step of a chain that is kept in a variable, which the step sets where it succeeds. -/
def meet (call : Call) : ExceptT ExpandError (StateM (Chain × List String)) Bool := do
  let (chain, _) ← get
  let (taken, chain) ← chain.step call.branch (noted call.test)
  modify fun (_, tested) => (chain, tested)
  return taken

/-- What comes of a call, and the chain behind it. -/
def advance (chain : Chain) (call : Call) : Event × Chain :=
  match (meet call).run.run (chain, []) with
  | (result, chain, tested) => (⟨call, result, tested⟩, chain)

/-- Adds a call to a history. -/
def record (run : List Event × Chain) (call : Call) : List Event × Chain :=
  let (event, chain) := run.2.advance call
  (run.1 ++ [event], chain)

/-- What comes of calls one after the other, and the chain behind them. -/
def run (calls : List Call) : List Event × Chain := calls.foldl record ([], .closed)

namespace Event

/-- The event begins a chain: an `if` whose test has not failed. -/
def begins (event : Event) : Bool :=
  match event.branch, event.result with
  | .ifTrue _, .ok _ => true
  | _, _ => false

/-- The event ends a chain: an `else` that was not refused. -/
def ends (event : Event) : Bool :=
  match event.branch, event.result with
  | .otherwise, .ok _ => true
  | _, _ => false

/-- The branch is taken. -/
def takes (event : Event) : Bool :=
  match event.result with
  | .ok taken => taken
  | .error _ => false

/-- The branch is refused for want of an `if`, before anything is tested. -/
def refused (event : Event) : Bool :=
  match event.result with
  | .ok _ => false
  | .error failure =>
    match event.branch, failure, event.tested with
    | .elseIf _, .orphanElseIf, [] => true
    | .otherwise, .orphanElse, [] => true
    | _, _, _ => false

@[simp]
theorem refused_tested (call : Call) (result : Except ExpandError Bool) (e : String) :
    (⟨call, result, [e]⟩ : Event).refused = false := by
  cases result with
  | ok taken => rfl
  | error failure => simp [refused]

end Event

variable {history : List Event} {event : Event} {chain : Chain}

/-- An `if` has begun a chain that no `else` has ended since. -/
def IsOpen (history : List Event) : Prop :=
  ∃ before first after, history = before ++ first :: after ∧ first.begins ∧
    ∀ event ∈ after, ¬ event.ends

/-- A branch has been taken since the last `if` that has begun a chain, that `if` included. -/
def IsSatisfied (history : List Event) : Prop :=
  ∃ before first after, history = before ++ first :: after ∧ first.begins ∧
    (∀ event ∈ after, ¬ event.begins) ∧ ∃ event ∈ first :: after, event.takes

/-- From one `if` that has begun a chain to the next at most one branch has been taken. -/
def TakesOnce (history : List Event) : Prop :=
  ∀ before first after rest, history = before ++ first :: after ++ rest → first.begins →
    (∀ event ∈ after, ¬ event.begins) → (first :: after).countP (·.takes) ≤ 1

/-- An event is what its history asks for. -/
structure Lawful (history : List Event) (event : Event) : Prop where
  refused_iff : event.refused ↔ (∀ e, event.branch ≠ .ifTrue e) ∧ ¬ IsOpen history
  taken_iff : event.takes ↔
    match event.branch with
    | .ifTrue e => event.test e = .ok true
    | .elseIf e => IsOpen history ∧ ¬ IsSatisfied history ∧ event.test e = .ok true
    | .otherwise => IsOpen history ∧ ¬ IsSatisfied history
  tested_eq :
    match event.branch with
    | .ifTrue e => event.tested = [e]
    | .elseIf e =>
      (IsOpen history ∧ ¬ IsSatisfied history → event.tested = [e]) ∧
        (¬ (IsOpen history ∧ ¬ IsSatisfied history) → event.tested = [])
    | .otherwise => event.tested = []
  failure : ∀ failure, event.result = .error failure →
    event.refused ∨ ∃ e ∈ event.tested, event.test e = .error failure

/-- The state of a chain says what matters of its history. -/
structure Reflects (history : List Event) (chain : Chain) : Prop where
  closed_iff : chain = .closed ↔ ¬ IsOpen history
  satisfied_iff : chain = .opened true ↔ IsOpen history ∧ IsSatisfied history

/-! ### Histories with one event more -/

theorem concat_eq_append_cons_iff {before after : List Event} {first : Event} :
    history ++ [event] = before ++ first :: after ↔
      after = [] ∧ history = before ∧ event = first ∨
        ∃ rest, after = rest ++ [event] ∧ history = before ++ first :: rest := by
  constructor
  · intro h
    rcases List.eq_nil_or_concat after with rfl | ⟨rest, last, rfl⟩
    · obtain ⟨hbefore, hfirst⟩ := List.append_inj' h rfl
      exact .inl ⟨rfl, hbefore, List.singleton_inj.mp hfirst⟩
    · have h' : history ++ [event] = (before ++ first :: rest) ++ [last] := by simpa using h
      obtain ⟨hbefore, hlast⟩ := List.append_inj' h' rfl
      obtain rfl := List.singleton_inj.mp hlast
      exact .inr ⟨rest, List.concat_eq_append, hbefore⟩
  · rintro (⟨rfl, rfl, rfl⟩ | ⟨rest, rfl, rfl⟩)
    · rfl
    · simp

theorem isOpen_concat :
    IsOpen (history ++ [event]) ↔ event.begins ∨ IsOpen history ∧ ¬ event.ends := by
  constructor
  · rintro ⟨before, first, after, heq, hfirst, hafter⟩
    rcases concat_eq_append_cons_iff.mp heq with ⟨rfl, rfl, rfl⟩ | ⟨rest, rfl, rfl⟩
    · exact .inl hfirst
    · have hrest : ∀ event ∈ rest, ¬ event.ends :=
        fun event h => hafter event (List.mem_append_left _ h)
      exact .inr ⟨⟨before, first, rest, rfl, hfirst, hrest⟩, hafter event (by simp)⟩
  · rintro (h | ⟨⟨before, first, after, rfl, hfirst, hafter⟩, hends⟩)
    · exact ⟨history, event, [], rfl, h, by simp⟩
    · refine ⟨before, first, after ++ [event], by simp, hfirst, fun other h => ?_⟩
      rcases List.mem_append.mp h with h | h
      · exact hafter other h
      · exact List.mem_singleton.mp h ▸ hends

theorem IsOpen.exists_begins (h : IsOpen history) : ∃ event ∈ history, event.begins := by
  obtain ⟨before, first, after, rfl, hfirst, -⟩ := h
  exact ⟨first, by simp, hfirst⟩

theorem exists_last_begins (h : ∃ event ∈ history, event.begins) :
    ∃ before first after, history = before ++ first :: after ∧ first.begins ∧
      ∀ event ∈ after, ¬ event.begins := by
  induction history with
  | nil => simp at h
  | cons event rest ih =>
    by_cases hrest : ∃ event ∈ rest, event.begins
    · obtain ⟨before, first, after, rfl, hfirst⟩ := ih hrest
      exact ⟨event :: before, first, after, rfl, hfirst⟩
    · have hnone : ∀ event ∈ rest, ¬ event.begins := fun event he hb => hrest ⟨event, he, hb⟩
      obtain ⟨other, hother, hbegins⟩ := h
      rcases List.mem_cons.mp hother with rfl | hother
      · exact ⟨[], other, rest, rfl, hbegins, hnone⟩
      · exact absurd hbegins (hnone other hother)

theorem isSatisfied_concat :
    IsSatisfied (history ++ [event]) ↔
      event.begins ∧ event.takes ∨
        ¬ event.begins ∧
          (IsSatisfied history ∨ event.takes ∧ ∃ other ∈ history, other.begins) := by
  constructor
  · rintro ⟨before, first, after, heq, hfirst, hafter, taken, htaken, htakes⟩
    rcases concat_eq_append_cons_iff.mp heq with ⟨rfl, rfl, rfl⟩ | ⟨rest, rfl, rfl⟩
    · obtain rfl := List.mem_singleton.mp htaken
      exact .inl ⟨hfirst, htakes⟩
    · refine .inr ⟨hafter event (by simp), ?_⟩
      rw [← List.cons_append, List.mem_append, List.mem_singleton] at htaken
      rcases htaken with htaken | rfl
      · have hrest : ∀ event ∈ rest, ¬ event.begins :=
          fun event h => hafter event (List.mem_append_left _ h)
        exact .inl ⟨before, first, rest, rfl, hfirst, hrest, taken, htaken, htakes⟩
      · exact .inr ⟨htakes, first, by simp, hfirst⟩
  · have extend : ∀ {after : List Event}, ¬ event.begins → (∀ other ∈ after, ¬ other.begins) →
        ∀ other ∈ after ++ [event], ¬ other.begins := by
      intro after hevent hafter other h
      rcases List.mem_append.mp h with h | h
      · exact hafter other h
      · exact List.mem_singleton.mp h ▸ hevent
    rintro (⟨hbegins, htakes⟩ | ⟨hbegins, h | ⟨htakes, h⟩⟩)
    · exact ⟨history, event, [], rfl, hbegins, by simp, event, by simp, htakes⟩
    · obtain ⟨before, first, after, rfl, hfirst, hafter, taken, htaken, htakes⟩ := h
      have hmem : taken ∈ first :: (after ++ [event]) := List.mem_append_left [event] htaken
      exact ⟨before, first, after ++ [event], by simp, hfirst, extend hbegins hafter, taken, hmem,
        htakes⟩
    · obtain ⟨before, first, after, rfl, hfirst, hafter⟩ := exists_last_begins h
      exact ⟨before, first, after ++ [event], by simp, hfirst, extend hbegins hafter, event,
        by simp, htakes⟩

/-! ### One step -/

section Steps

variable (chain : Chain) (e : String) (test : String → Except ExpandError Bool)

theorem run_meet (call : Call) (tested : List String) :
    (meet call).run.run (chain, tested) =
      match (chain.step call.branch (noted call.test)).run.run (chain, tested) with
      | (.ok (taken, chain), _, tested) => (.ok taken, chain, tested)
      | (.error failure, chain, tested) => (.error failure, chain, tested) := by
  have hmeet : (meet call).run.run (chain, tested) =
      ((do
        let (taken, chain) ← chain.step call.branch (noted call.test)
        modify fun (_, tested) => (chain, tested)
        return taken :
          ExceptT ExpandError (StateM (Chain × List String)) Bool)).run.run (chain, tested) := rfl
  rw [hmeet, ExceptT.run_bind, StateT.run_bind]
  rcases (chain.step call.branch (noted call.test)).run.run (chain, tested) with
    ⟨failure | ⟨taken, chain'⟩, chain'', tested'⟩ <;> rfl

theorem advance_ifTrue :
    chain.advance ⟨.ifTrue e, test⟩ =
      (⟨⟨.ifTrue e, test⟩, test e, [e]⟩,
        match test e with
        | .ok taken => .opened taken
        | .error _ => chain) := by
  simp only [advance, run_meet, step]
  cases h : test e <;> simp [noted, h] <;> rfl

theorem advance_elseIf_closed :
    Chain.closed.advance ⟨.elseIf e, test⟩ =
      (⟨⟨.elseIf e, test⟩, .error .orphanElseIf, []⟩, .closed) := rfl

theorem advance_elseIf_satisfied :
    (Chain.opened true).advance ⟨.elseIf e, test⟩ =
      (⟨⟨.elseIf e, test⟩, .ok false, []⟩, .opened true) := rfl

theorem advance_elseIf_unsatisfied :
    (Chain.opened false).advance ⟨.elseIf e, test⟩ =
      (⟨⟨.elseIf e, test⟩, test e, [e]⟩,
        match test e with
        | .ok taken => .opened taken
        | .error _ => .opened false) := by
  simp only [advance, run_meet, step]
  cases h : test e <;> simp [noted, h] <;> rfl

theorem advance_otherwise_closed :
    Chain.closed.advance ⟨.otherwise, test⟩ =
      (⟨⟨.otherwise, test⟩, .error .orphanElse, []⟩, .closed) := rfl

theorem advance_otherwise_opened (satisfied : Bool) :
    (Chain.opened satisfied).advance ⟨.otherwise, test⟩ =
      (⟨⟨.otherwise, test⟩, .ok !satisfied, []⟩, .closed) := rfl

end Steps

/-! ### What the state says -/

theorem reflects_start : Reflects [] .closed where
  closed_iff := by simp [IsOpen]
  satisfied_iff := by simp [IsOpen]

/-- An event that neither begins nor ends a chain nor takes its branch changes nothing. -/
theorem Reflects.of_idle (h : Reflects history chain) (hbegins : event.begins = false)
    (hends : event.ends = false) (htakes : event.takes = false) :
    Reflects (history ++ [event]) chain := by
  have hopen : IsOpen (history ++ [event]) ↔ IsOpen history := by
    simp [isOpen_concat, hbegins, hends]
  have hsatisfied : IsSatisfied (history ++ [event]) ↔ IsSatisfied history := by
    simp [isSatisfied_concat, hbegins, htakes]
  exact ⟨by rw [h.closed_iff, hopen], by rw [h.satisfied_iff, hopen, hsatisfied]⟩

/-- An `if` that begins a chain decides alone whether it is satisfied. -/
theorem reflects_of_begins (hbegins : event.begins = true) :
    Reflects (history ++ [event]) (.opened event.takes) where
  closed_iff := by simp [isOpen_concat, hbegins]
  satisfied_iff := by simp [isOpen_concat, isSatisfied_concat, hbegins]

/-- A later branch that is tested decides whether an unsatisfied chain is satisfied now. -/
theorem Reflects.of_tested (h : Reflects history (.opened false)) (hbegins : event.begins = false)
    (hends : event.ends = false) : Reflects (history ++ [event]) (.opened event.takes) := by
  have hopen : IsOpen history := by simpa using h.closed_iff
  have hsatisfied : ¬ IsSatisfied history := by simpa [hopen] using h.satisfied_iff
  constructor
  · simp [isOpen_concat, hopen, hends]
  · simp [isOpen_concat, isSatisfied_concat, hopen, hends, hbegins, hsatisfied, hopen.exists_begins]

theorem reflects_of_ends (hbegins : event.begins = false) (hends : event.ends = true) :
    Reflects (history ++ [event]) .closed where
  closed_iff := by simp [isOpen_concat, hbegins, hends]
  satisfied_iff := by simp [isOpen_concat, hbegins, hends]

/-- The state goes on to say what matters of the history. -/
theorem Reflects.advance (h : Reflects history chain) (call : Call) :
    Reflects (history ++ [(chain.advance call).1]) (chain.advance call).2 := by
  obtain ⟨branch, test⟩ := call
  cases branch with
  | ifTrue e =>
    rw [advance_ifTrue]
    cases htest : test e with
    | ok taken => exact reflects_of_begins rfl
    | error failure => exact h.of_idle rfl rfl rfl
  | elseIf e =>
    rcases chain with _ | _ | _
    · exact h.of_idle rfl rfl rfl
    · rw [advance_elseIf_unsatisfied]
      cases htest : test e with
      | ok taken => exact h.of_tested rfl rfl
      | error failure => exact h.of_idle rfl rfl rfl
    · exact h.of_idle rfl rfl rfl
  | otherwise =>
    cases chain with
    | closed => exact h.of_idle rfl rfl rfl
    | opened satisfied => exact reflects_of_ends rfl rfl

/-! ### The law of a step -/

/-- A step does what its history asks for. -/
theorem Reflects.lawful (h : Reflects history chain) (call : Call) :
    Lawful history (chain.advance call).1 := by
  obtain ⟨branch, test⟩ := call
  have hclosed := h.closed_iff
  have hsatisfied := h.satisfied_iff
  cases branch with
  | ifTrue e =>
    rw [advance_ifTrue]
    refine ⟨by simp, ?_, rfl, fun failure hf => .inr ⟨e, by simp, hf⟩⟩
    cases htest : test e <;> simp [Event.takes, htest]
  | elseIf e =>
    rcases chain with _ | _ | _
    · have hopen : ¬ IsOpen history := hclosed.mp rfl
      rw [advance_elseIf_closed]
      exact ⟨by simp [Event.refused, hopen], by simp [Event.takes, hopen], by simp [hopen],
        fun failure _ => .inl rfl⟩
    · have hopen : IsOpen history := by simpa using hclosed
      have hnot : ¬ IsSatisfied history := by simpa [hopen] using hsatisfied
      rw [advance_elseIf_unsatisfied]
      refine ⟨by simp [hopen], ?_, by simp [hopen, hnot],
        fun failure hf => .inr ⟨e, by simp, hf⟩⟩
      cases htest : test e <;> simp [Event.takes, hopen, hnot, htest]
    · obtain ⟨hopen, hyes⟩ := hsatisfied.mp rfl
      rw [advance_elseIf_satisfied]
      exact ⟨by simp [Event.refused, hopen], by simp [Event.takes, hyes], by simp [hyes],
        fun failure hf => by cases hf⟩
  | otherwise =>
    cases chain with
    | closed =>
      have hopen : ¬ IsOpen history := hclosed.mp rfl
      rw [advance_otherwise_closed]
      exact ⟨by simp [Event.refused, hopen], by simp [Event.takes, hopen], rfl,
        fun failure _ => .inl rfl⟩
    | opened satisfied =>
      have hopen : IsOpen history := by simpa using hclosed
      rw [advance_otherwise_opened]
      refine ⟨by simp [Event.refused, hopen], ?_, rfl, fun failure hf => by cases hf⟩
      simp only [hopen, true_and] at hsatisfied ⊢
      rw [← hsatisfied]
      simp [Event.takes]

theorem advance_of_error (chain : Chain) (call : Call) {failure : ExpandError}
    (h : (chain.advance call).1.result = .error failure) : (chain.advance call).2 = chain := by
  obtain ⟨branch, test⟩ := call
  cases branch with
  | ifTrue e =>
    rw [advance_ifTrue] at h ⊢
    simp only at h
    rw [h]
  | elseIf e =>
    rcases chain with _ | _ | _
    · rfl
    · rw [advance_elseIf_unsatisfied] at h ⊢
      simp only at h
      rw [h]
    · rfl
  | otherwise =>
    cases chain with
    | closed => rfl
    | opened satisfied => cases h

/-! ### Runs -/

theorem Lawful.not_isSatisfied (h : Lawful history event) (hbegins : event.begins = false)
    (htakes : event.takes) : ¬ IsSatisfied history := by
  have htaken := h.taken_iff.mp htakes
  obtain ⟨⟨branch, test⟩, result, tested⟩ := event
  cases branch with
  | ifTrue e =>
    cases result with
    | ok taken => cases hbegins
    | error failure => cases htakes
  | elseIf e => exact htaken.2.1
  | otherwise => exact htaken.2

theorem Lawful.takesOnce (h : Lawful history event) (honce : TakesOnce history) :
    TakesOnce (history ++ [event]) := by
  intro before first after rest heq hfirst hafter
  rcases List.eq_nil_or_concat rest with rfl | ⟨rest, last, rfl⟩
  · rw [List.append_nil] at heq
    rcases concat_eq_append_cons_iff.mp heq with ⟨rfl, -, -⟩ | ⟨after, rfl, rfl⟩
    · exact List.countP_le_length
    · have hrest : ∀ event ∈ after, ¬ event.begins :=
        fun event h => hafter event (List.mem_append_left _ h)
      rw [← List.cons_append, List.countP_append, List.countP_singleton]
      cases htakes : event.takes with
      | false => exact honce before first after [] (List.append_nil _).symm hfirst hrest
      | true =>
        -- The event is taken, so that no branch was taken before it.
        have hevent : event.begins = false := by simpa using hafter event (by simp)
        have hnone : (first :: after).countP (·.takes) = 0 := by
          refine List.countP_eq_zero.mpr fun taken hmem htaken => ?_
          exact h.not_isSatisfied hevent htakes
            ⟨before, first, after, rfl, hfirst, hrest, taken, hmem, htaken⟩
        simp [hnone]
  · rw [List.concat_eq_append, ← List.append_assoc] at heq
    obtain ⟨hhistory, -⟩ := List.append_inj' heq rfl
    exact honce before first after rest hhistory hfirst hafter

theorem run_concat (calls : List Call) (call : Call) :
    run (calls ++ [call]) =
      ((run calls).1 ++ [((run calls).2.advance call).1], ((run calls).2.advance call).2) := by
  rw [run, List.foldl_append]
  rfl

theorem reflects_record {history : List Event} {chain : Chain} (h : Reflects history chain)
    (honce : TakesOnce history) (calls : List Call) :
    let (history', chain') := calls.foldl record (history, chain)
    Reflects history' chain' ∧ TakesOnce history' := by
  induction calls generalizing history chain with
  | nil => exact ⟨h, honce⟩
  | cons call rest ih => exact ih (h.advance call) ((h.lawful call).takesOnce honce)

theorem reflects_run (calls : List Call) :
    Reflects (run calls).1 (run calls).2 ∧ TakesOnce (run calls).1 := by
  refine reflects_record reflects_start ?_ calls
  intro before first after rest heq
  simp at heq

/-- Whatever branches a chain meets and whatever their conditions come to, each step does what the
steps before it ask for, a step that fails leaves the chain as it was, and from one `if` to the
next at most one branch is taken. -/
theorem steps_follow_history (calls : List Call) (call : Call) :
    let history := (run calls).1
    let chain := (run calls).2
    let event := (chain.advance call).1
    let chain' := (chain.advance call).2
    run (calls ++ [call]) = (history ++ [event], chain') ∧
      event.toCall = call ∧ Lawful history event ∧
      (∀ failure, event.result = .error failure → chain' = chain) ∧ TakesOnce history := by
  intro history chain event chain'
  obtain ⟨hreflects, honce⟩ := reflects_run calls
  have hfailing : ∀ failure, event.result = .error failure → chain' = chain :=
    fun _ h => chain.advance_of_error call h
  exact ⟨run_concat calls call, rfl, hreflects.lawful call, hfailing, honce⟩

/-- An `else` that is refused, a chain with a branch that is taken, an `if` whose test fails in the
middle of it, and then an `if` whose test fails. -/
theorem steps_follow_history_failing :
    let yes : String → Except ExpandError Bool := fun _ => .ok true
    let no : String → Except ExpandError Bool := fun _ => .ok false
    let fails : String → Except ExpandError Bool := fun _ => .error (.user "no")
    let calls : List Call :=
      [⟨.otherwise, yes⟩, ⟨.ifTrue "a", no⟩, ⟨.elseIf "b", yes⟩, ⟨.ifTrue "c", fails⟩,
        ⟨.elseIf "d", yes⟩]
    let call : Call := ⟨.ifTrue "e", fails⟩
    let history := (run calls).1
    let chain := (run calls).2
    history.map (fun event => (event.takes, event.refused, event.tested)) =
        [(false, true, []), (false, false, ["a"]), (true, false, ["b"]), (false, false, ["c"]),
          (false, false, [])] ∧
      chain = .opened true ∧
      (chain.advance call).1.result = .error (.user "no") ∧ (chain.advance call).2 = chain ∧
      (history.drop 1).countP (·.takes) ≤ 1 := by
  intro yes no fails calls call history chain
  obtain ⟨-, -, -, hfailing, honce⟩ := steps_follow_history calls call
  have honce := honce [history[0]] history[1] (history.drop 2) [] rfl rfl (by decide)
  exact ⟨rfl, rfl, rfl, hfailing _ rfl, honce⟩

end RowTemplate.Chain
