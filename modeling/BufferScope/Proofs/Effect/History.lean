/-
Histories of calls on one effect. A history is a list of requests; each call meets the effect as the
call before left it, whether that one succeeded or not.
-/
import Mathlib.Tactic
import BufferScope.Effect.Basic
import BufferScope.Proofs.Audio.Buffer

namespace BufferScope

/-- What a call hands to an effect. -/
structure Request (σ ρ : Type) where
  inputs : List (Array σ)
  outputs : List (Array σ)
  rate : ρ

/-- A call that was made: what it handed over, and how it ended. -/
structure Call (ε σ ρ : Type) where
  request : Request σ ρ
  answer : Processed ε σ

namespace Call

variable {ε σ ρ : Type}

/-- Whether the call succeeded. -/
def succeeded (c : Call ε σ ρ) : Bool := c.answer.result.isOk

/-- The frames that the call asked for: the length of the first output channel. -/
def frames (c : Call ε σ ρ) : Nat := (c.request.outputs.head?.map Array.size).getD 0

/-- What the call handed over in input channel `i`. -/
def received (c : Call ε σ ρ) (i : Nat) : List σ := (c.request.inputs[i]?.getD #[]).toList

/-- What the call left in output channel `k`. -/
def left (c : Call ε σ ρ) (k : Nat) : List σ := (c.answer.outputs[k]?.getD #[]).toList

/-- The frames of the first `k` calls together. -/
def framesBefore (calls : List (Call ε σ ρ)) (k : Nat) : Nat := ((calls.take k).map frames).sum

end Call

namespace BufferEffect

variable {ε σ ρ : Type} [BufferEffect ε σ ρ]

/-- One call on an effect. -/
def call (e : ε) (r : Request σ ρ) : Call ε σ ρ := ⟨r, (process e r.inputs r.outputs r.rate).value⟩

/-- The calls of a history. -/
def calls (e : ε) : List (Request σ ρ) → List (Call ε σ ρ)
  | [] => []
  | r :: rest => call e r :: calls (call e r).answer.effect rest

/-- The effect after a history. -/
def after (e : ε) : List (Request σ ρ) → ε
  | [] => e
  | r :: rest => after (call e r).answer.effect rest

/-- The calls of a history that succeeded. -/
def successes (e : ε) (requests : List (Request σ ρ)) : List (Call ε σ ρ) :=
  (calls e requests).filter Call.succeeded

/-- Effects whose calls leave every output channel with the length it had. -/
def KeepsLengths (ε : Type) {σ ρ : Type} [BufferEffect ε σ ρ] : Prop :=
  ∀ (e : ε) (r : Request σ ρ), (call e r).answer.outputs.map Array.size = r.outputs.map Array.size

/-- What a call leaves in a channel is as long as the channel was. -/
theorem KeepsLengths.length_left (keeps : KeepsLengths ε) (e : ε) (r : Request σ ρ) (k : Nat) :
    ((call e r).left k).length = (r.outputs[k]?.getD #[]).size := by
  have sizes := congrArg (fun sizes => sizes[k]?.getD 0) (keeps e r)
  simp only [List.getElem?_map] at sizes
  unfold Call.left
  rw [Array.length_toList]
  cases h : (call e r).answer.outputs[k]? <;> cases h' : r.outputs[k]? <;> rw [h, h'] at sizes <;> exact sizes

/-- Effects that refuse a call and touch nothing, or leave one signal in all output channels, aligned to the
length of each. -/
def FansOut (ε : Type) {σ ρ : Type} [BufferEffect ε σ ρ] [Sample ρ σ] : Prop :=
  ∀ (e : ε) (r : Request σ ρ), (∃ error, (call e r).answer = .refused e r.outputs error) ∨
    (call e r).answer.result = .ok () ∧ ∃ signal : Array ρ,
      (call e r).answer.outputs = r.outputs.map fun channel => Audio.aligned signal channel.size

theorem FansOut.keepsLengths [Sample ρ σ] (fans : FansOut ε) : KeepsLengths ε := by
  intro e r
  obtain ⟨_, refused⟩ | ⟨-, _, outputs⟩ := fans e r
  · rw [refused]
    rfl
  · rw [outputs]
    simp [Function.comp_def]

@[simp] theorem calls_nil (e : ε) : calls e ([] : List (Request σ ρ)) = [] := rfl

@[simp] theorem calls_cons (e : ε) (r : Request σ ρ) (rest : List (Request σ ρ)) :
    calls e (r :: rest) = call e r :: calls (call e r).answer.effect rest := rfl

@[simp] theorem after_nil (e : ε) : after e ([] : List (Request σ ρ)) = e := rfl

@[simp] theorem after_cons (e : ε) (r : Request σ ρ) (rest : List (Request σ ρ)) :
    after e (r :: rest) = after (call e r).answer.effect rest := rfl

theorem after_append (first second : List (Request σ ρ)) : ∀ e : ε,
    after e (first ++ second) = after (after e first) second := by
  induction first with
  | nil => exact fun _ => rfl
  | cons r rest ih => exact fun e => ih (call e r).answer.effect

@[simp] theorem successes_nil (e : ε) : successes e ([] : List (Request σ ρ)) = [] := rfl

theorem successes_cons (e : ε) (r : Request σ ρ) (rest : List (Request σ ρ)) :
    successes e (r :: rest) = if (call e r).succeeded then call e r :: successes (call e r).answer.effect rest
      else successes (call e r).answer.effect rest := by
  unfold successes
  rw [calls_cons, List.filter_cons]

@[simp] theorem length_calls (e : ε) (requests : List (Request σ ρ)) :
    (calls e requests).length = requests.length := by
  induction requests generalizing e with
  | nil => rfl
  | cons r rest ih => simp [ih]

theorem map_request_calls (e : ε) (requests : List (Request σ ρ)) :
    (calls e requests).map Call.request = requests := by
  induction requests generalizing e with
  | nil => rfl
  | cons r rest ih => rw [calls_cons, List.map_cons, ih, call]

/-- What every call keeps holds before and after each call of a history. -/
theorem mem_calls_of_kept (keeps : ε → Prop)
    (step : ∀ e (r : Request σ ρ), keeps e → keeps (call e r).answer.effect)
    {e : ε} (start : keeps e) {requests : List (Request σ ρ)} {c : Call ε σ ρ} (made : c ∈ calls e requests) :
    c.request ∈ requests ∧ ∃ before : ε, keeps before ∧ c = call before c.request := by
  induction requests generalizing e with
  | nil => exact nomatch made
  | cons r rest ih =>
    rcases List.mem_cons.mp made with rfl | later
    · exact ⟨List.mem_cons_self, e, start, rfl⟩
    · obtain ⟨handed, before, kept, same⟩ := ih (step e r start) later
      exact ⟨List.mem_cons_of_mem r handed, before, kept, same⟩

/-- Every call of a history is the call on some effect with one of its requests. -/
theorem mem_calls {e : ε} {requests : List (Request σ ρ)} {c : Call ε σ ρ} (made : c ∈ calls e requests) :
    c.request ∈ requests ∧ ∃ before : ε, c = call before c.request := by
  obtain ⟨handed, before, -, same⟩ := mem_calls_of_kept (fun _ => True) (fun _ _ _ => trivial) trivial made
  exact ⟨handed, before, same⟩

/-- Call number `j` meets the effect as the requests before left it. -/
theorem getElem?_calls (e : ε) (requests : List (Request σ ρ)) (j : Nat) :
    (calls e requests)[j]? = requests[j]?.map (call (after e (requests.take j))) := by
  induction requests generalizing e j with
  | nil => rfl
  | cons r rest ih =>
    cases j with
    | zero => rfl
    | succ j => simp [ih]

/-- The effects that calls and resets can make of a new one. -/
inductive Reachable (new : ε) : ε → Prop
  | start : Reachable new new
  | call {e : ε} (r : Request σ ρ) (reached : Reachable new e) : Reachable new (call e r).answer.effect
  | reset {e : ε} (reached : Reachable new e) : Reachable new (reset e)

theorem Reachable.after {new e : ε} (reached : Reachable new e) (requests : List (Request σ ρ)) :
    Reachable new (BufferEffect.after e requests) := by
  induction requests generalizing e with
  | nil => exact reached
  | cons r rest ih => exact ih (.call r reached)

end BufferEffect

end BufferScope
