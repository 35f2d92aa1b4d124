import Mathlib.Data.List.Infix

/-!
# Reading from a stream in pieces

A buffered reader delivers a stream in pieces and shows its caller one piece at a time. A
computation that reads is uniform if it sees nothing of the cuts: from two readers of the same
stream it returns the same value or fails with the same error, and leaves the same stream behind.
Uniform computations compose, so a parser made of uniform parts is uniform, and it is enough to
know what it does to a stream that comes in one piece.
-/

namespace VRCStreamer.Codec

universe u v

/-- What a reader still has to deliver. No piece is empty: an empty read is the end. -/
abbrev Pieces (α : Type u) := List {piece : List α // piece ≠ []}

namespace Pieces

variable {α : Type u}

def stream (r : Pieces α) : List α := r.flatMap Subtype.val

/-- Put what is left of a piece back in front. -/
def restore (rest : List α) (r : Pieces α) : Pieces α :=
  if h : rest = [] then r else ⟨rest, h⟩ :: r

/-- A stream in one piece. -/
def whole (stream : List α) : Pieces α := restore stream []

/-- The piece in the buffer; empty at the end of the stream. -/
def fillBuf : Pieces α → List α
  | [] => []
  | piece :: _ => piece.val

/-- Use up a number of elements of the piece in the buffer. -/
def consume (n : Nat) : Pieces α → Pieces α
  | [] => []
  | piece :: r => restore (piece.val.drop n) r

@[simp] theorem stream_nil : stream ([] : Pieces α) = [] := rfl

@[simp] theorem stream_cons (piece : {piece : List α // piece ≠ []}) (r : Pieces α) :
    stream (piece :: r) = piece.val ++ r.stream := rfl

@[simp] theorem stream_restore (rest : List α) (r : Pieces α) :
    (restore rest r).stream = rest ++ r.stream := by
  rw [restore]
  split
  next h => rw [h, List.nil_append]
  next => rfl

@[simp] theorem stream_whole (stream : List α) : (whole stream).stream = stream := by
  rw [whole, stream_restore]
  exact List.append_nil stream

theorem fillBuf_append_consume (r : Pieces α) :
    r.stream = r.fillBuf ++ (r.consume r.fillBuf.length).stream := by
  cases r with
  | nil => rfl
  | cons piece r => simp [fillBuf, consume]

theorem stream_consume {r : Pieces α} {n : Nat} (hn : n ≤ r.fillBuf.length) :
    (r.consume n).stream = r.stream.drop n := by
  cases r with
  | nil => exact (List.drop_nil).symm
  | cons piece r =>
    rw [consume, stream_restore, stream_cons]
    exact (List.drop_append_of_le_length hn).symm

theorem length_fillBuf_le (r : Pieces α) : r.fillBuf.length ≤ r.stream.length := by
  rw [r.fillBuf_append_consume, List.length_append]
  exact Nat.le_add_right _ _

theorem take_fillBuf (r : Pieces α) (n : Nat) :
    r.fillBuf.take n = r.stream.take (r.fillBuf.take n).length := by
  rw [r.fillBuf_append_consume, List.take_append_of_le_length (List.length_take_le' _ _),
    List.length_take, ← List.take_eq_take_min]

theorem fillBuf_eq_nil {r : Pieces α} (h : r.fillBuf = []) : r.stream = [] := by
  cases r with
  | nil => rfl
  | cons piece r => exact absurd h piece.property

end Pieces

/-- A computation that reads from a stream and may fail. -/
abbrev Reading (α : Type u) (ε : Type v) (β : Type u) := StateT (Pieces α) (Except ε) β

namespace Reading

variable {α σ β γ : Type u} {ε : Type v}

@[simp] theorem pure_apply (b : β) (r : Pieces α) :
    (pure b : Reading α ε β) r = .ok (b, r) := rfl

@[simp] theorem throw_apply (e : ε) (r : Pieces α) :
    (throw e : Reading α ε β) r = .error e := rfl

theorem bind_of_ok {x : Reading α ε β} {f : β → Reading α ε γ} {r r' : Pieces α} {b : β}
    (h : x r = .ok (b, r')) : (x >>= f) r = f b r' := by
  show (x r >>= fun p => f p.1 p.2) = f b r'
  rw [h]
  rfl

theorem bind_of_error {x : Reading α ε β} {f : β → Reading α ε γ} {r : Pieces α} {e : ε}
    (h : x r = .error e) : (x >>= f) r = .error e := by
  show (x r >>= fun p => f p.1 p.2) = .error e
  rw [h]
  rfl

theorem bind_eq_ok {x : Reading α ε β} {f : β → Reading α ε γ} {r r'' : Pieces α} {c : γ}
    (h : (x >>= f) r = .ok (c, r'')) : ∃ b r', x r = .ok (b, r') ∧ f b r' = .ok (c, r'') := by
  cases hx : x r with
  | error e =>
    rw [bind_of_error hx] at h
    cases h
  | ok next =>
    obtain ⟨b, r'⟩ := next
    rw [bind_of_ok hx] at h
    exact ⟨b, r', rfl, h⟩

/-! ## Uniform computations -/

/-- The same outcome, up to the cuts in the stream that is left. -/
inductive Agree : Except ε (β × Pieces α) → Except ε (β × Pieces α) → Prop
  | error (e : ε) : Agree (.error e) (.error e)
  | ok (b : β) {r r' : Pieces α} (h : r.stream = r'.stream) : Agree (.ok (b, r)) (.ok (b, r'))

/-- An outcome told by the stream: the error, or the value and how much of the stream it took. -/
def Gives (x : Reading α ε β) (r : Pieces α) : Except ε (β × Nat) → Prop
  | .error e => x r = .error e
  | .ok (b, n) => ∃ r', x r = .ok (b, r') ∧ r'.stream = r.stream.drop n

theorem Gives.of_ok {x : Reading α ε β} {r r' : Pieces α} {b : β}
    {outcome : Except ε (β × Nat)} (hx : Gives x r outcome) (h : x r = .ok (b, r')) :
    ∃ n, outcome = .ok (b, n) ∧ r'.stream = r.stream.drop n := by
  cases outcome with
  | error e =>
    rw [show x r = .error e from hx] at h
    cases h
  | ok next =>
    obtain ⟨s, hs, hdrop⟩ := hx
    rw [hs] at h
    cases h
    exact ⟨next.2, rfl, hdrop⟩

/-- The outcome depends on the stream alone, and what is left was at its end. -/
structure Uniform (x : Reading α ε β) : Prop where
  agree : ∀ {r r' : Pieces α}, r.stream = r'.stream → Agree (x r) (x r')
  suffix : ∀ {r r' : Pieces α} {b : β}, x r = .ok (b, r') → r'.stream <:+ r.stream

namespace Uniform

theorem pure (b : β) : Uniform (Pure.pure b : Reading α ε β) where
  agree h := .ok b h
  suffix h := by
    cases h
    exact List.suffix_refl _

theorem throw (e : ε) : Uniform (MonadExcept.throw e : Reading α ε β) where
  agree _ := .error e
  suffix h := by cases h

theorem bind {x : Reading α ε β} {f : β → Reading α ε γ} (hx : Uniform x)
    (hf : ∀ b, Uniform (f b)) : Uniform (x >>= f) where
  agree {r r'} h := by
    have hagree := hx.agree h
    generalize hleft : x r = left at hagree
    generalize hright : x r' = right at hagree
    cases hagree with
    | error e =>
      rw [bind_of_error hleft, bind_of_error hright]
      exact .error e
    | ok b hstream =>
      rw [bind_of_ok hleft, bind_of_ok hright]
      exact (hf b).agree hstream
  suffix h := by
    obtain ⟨b, r', hx', hf'⟩ := bind_eq_ok h
    exact ((hf b).suffix hf').trans (hx.suffix hx')

theorem ite {p : Prop} [Decidable p] {x y : Reading α ε β} (hx : p → Uniform x)
    (hy : ¬ p → Uniform y) : Uniform (if p then x else y) := by
  split
  next h => exact hx h
  next h => exact hy h

theorem of_gives {x : Reading α ε β} (outcome : List α → Except ε (β × Nat))
    (hx : ∀ r, Gives x r (outcome r.stream)) : Uniform x where
  agree {r r'} h := by
    have hleft := hx r
    have hright := hx r'
    rw [← h] at hright
    cases houtcome : outcome r.stream with
    | error e =>
      rw [houtcome] at hleft hright
      rw [show x r = .error e from hleft, show x r' = .error e from hright]
      exact .error e
    | ok next =>
      rw [houtcome] at hleft hright
      obtain ⟨s, hs, hleft⟩ := hleft
      obtain ⟨s', hs', hright⟩ := hright
      rw [hs, hs']
      rw [← h] at hright
      exact .ok _ (hleft.trans hright.symm)
  suffix {r r' b} h := by
    obtain ⟨n, -, hdrop⟩ := (hx r).of_ok h
    rw [hdrop]
    exact List.drop_suffix _ _

end Uniform

/-! ## Results on a stream -/

/-- On this stream the computation returns the value and leaves the rest, however it is cut. -/
def Reads (x : Reading α ε β) (stream : List α) (b : β) (rest : List α) : Prop :=
  ∀ r : Pieces α, r.stream = stream → ∃ r', x r = .ok (b, r') ∧ r'.stream = rest

/-- On this stream the computation fails. -/
def Fails (x : Reading α ε β) (stream : List α) (e : ε) : Prop :=
  ∀ r : Pieces α, r.stream = stream → x r = .error e

section Results

variable {x : Reading α ε β} {f : β → Reading α ε γ} {stream middle rest : List α} {b : β} {c : γ}
variable {e : ε}

theorem Reads.pure (b : β) (stream : List α) :
    Reads (Pure.pure b : Reading α ε β) stream b stream :=
  fun r h => ⟨r, rfl, h⟩

theorem Reads.bind (hx : Reads x stream b middle) (hf : Reads (f b) middle c rest) :
    Reads (x >>= f) stream c rest := by
  intro r h
  obtain ⟨r', hr', hmiddle⟩ := hx r h
  rw [bind_of_ok hr']
  exact hf r' hmiddle

theorem Fails.throw (e : ε) (stream : List α) :
    Fails (MonadExcept.throw e : Reading α ε β) stream e :=
  fun _ _ => rfl

theorem Fails.bind (hx : Fails x stream e) : Fails (x >>= f) stream e :=
  fun r h => bind_of_error (hx r h)

end Results

/-! ## Loops -/

/-- A loop with a state. A round that goes on has read something. -/
structure Loop (α σ β : Type u) (ε : Type v) where
  step : σ → Reading α ε (σ ⊕ β)
  progress : ∀ {s r s' r'}, step s r = .ok (.inl s', r') → r'.stream.length < r.stream.length

namespace Loop

def runFrom (loop : Loop α σ β ε) (s : σ) (r : Pieces α) : Except ε (β × Pieces α) :=
  match h : loop.step s r with
  | .error e => .error e
  | .ok (.inr b, r') => .ok (b, r')
  | .ok (.inl s', r') =>
    have := loop.progress h
    loop.runFrom s' r'
termination_by r.stream.length

def run (loop : Loop α σ β ε) (s : σ) : Reading α ε β := loop.runFrom s

variable {loop : Loop α σ β ε} {s s' : σ} {r r' : Pieces α} {b : β}

theorem run_of_error {e : ε} (h : loop.step s r = .error e) : loop.run s r = .error e := by
  rw [run, runFrom]
  split
  next h' =>
    rw [h] at h'
    cases h'
    rfl
  next h' => rw [h] at h'; cases h'
  next h' => rw [h] at h'; cases h'

theorem run_of_done (h : loop.step s r = .ok (.inr b, r')) : loop.run s r = .ok (b, r') := by
  rw [run, runFrom]
  split
  next h' => rw [h] at h'; cases h'
  next h' =>
    rw [h] at h'
    cases h'
    rfl
  next h' => rw [h] at h'; cases h'

theorem run_of_again (h : loop.step s r = .ok (.inl s', r')) :
    loop.run s r = loop.run s' r' := by
  rw [run, runFrom]
  split
  next h' => rw [h] at h'; cases h'
  next h' => rw [h] at h'; cases h'
  next h' =>
    rw [h] at h'
    cases h'
    rfl

variable (loop) in
/-- Induction over the rounds of a loop, by what is left of the stream. -/
theorem induction {P : σ → Pieces α → Prop}
    (round : ∀ s r, (∀ s' r', loop.step s r = .ok (.inl s', r') → P s' r') → P s r)
    (s : σ) (r : Pieces α) : P s r := by
  induction hn : r.stream.length using Nat.strong_induction_on generalizing s r with
  | _ n ih =>
    apply round
    intro s' r' h
    have hshorter := loop.progress h
    exact ih r'.stream.length (hn ▸ hshorter) s' r' rfl

/-- What the last round returns and every round passes on holds of the loop. -/
theorem run_rule {P : σ → Pieces α → β → Pieces α → Prop}
    (done : ∀ {s r b r'}, loop.step s r = .ok (.inr b, r') → P s r b r')
    (again : ∀ {s r s' r' b r''}, loop.step s r = .ok (.inl s', r') → P s' r' b r'' → P s r b r'')
    (h : loop.run s r = .ok (b, r')) : P s r b r' := by
  induction s, r using loop.induction with
  | round s r ih =>
    cases hstep : loop.step s r with
    | error e =>
      rw [run_of_error hstep] at h
      cases h
    | ok next =>
      obtain ⟨s' | b', r''⟩ := next
      · rw [run_of_again hstep] at h
        exact again hstep (ih s' r'' hstep h)
      · rw [run_of_done hstep] at h
        cases h
        exact done hstep

theorem uniform (hstep : ∀ s, Uniform (loop.step s)) (s : σ) : Uniform (loop.run s) where
  agree {r r'} h := by
    induction s, r using loop.induction generalizing r' with
    | round s r ih =>
      have hagree := (hstep s).agree h
      generalize hleft : loop.step s r = left at hagree
      generalize hright : loop.step s r' = right at hagree
      cases hagree with
      | error e =>
        rw [run_of_error hleft, run_of_error hright]
        exact .error e
      | ok next hstream =>
        cases next with
        | inl s' =>
          rw [run_of_again hleft, run_of_again hright]
          exact ih s' _ hleft hstream
        | inr b =>
          rw [run_of_done hleft, run_of_done hright]
          exact .ok b hstream
  suffix h := by
    apply run_rule (P := fun _ r _ r' => r'.stream <:+ r.stream) _ _ h
    · intro s r b r' hdone
      exact (hstep s).suffix hdone
    · intro s r s' r' b r'' hagain hrest
      exact hrest.trans ((hstep s).suffix hagain)

theorem gives_again {m : Nat} {outcome : Except ε (β × Nat)}
    (h : loop.step s r = .ok (.inl s', r')) (hdrop : r'.stream = r.stream.drop m)
    (hrest : Gives (loop.run s') r' outcome) :
    Gives (loop.run s) r (outcome.map (fun next => (next.1, m + next.2))) := by
  cases outcome with
  | error e =>
    show loop.run s r = .error e
    rw [run_of_again h]
    exact hrest
  | ok next =>
    obtain ⟨r'', hrun, hstream⟩ := hrest
    refine ⟨r'', ?_, ?_⟩
    · rw [run_of_again h]
      exact hrun
    · rw [hstream, hdrop, List.drop_drop]

variable {stream middle rest : List α} {e : ε}

theorem reads_done (h : Reads (loop.step s) stream (.inr b) rest) :
    Reads (loop.run s) stream b rest := by
  intro r hr
  obtain ⟨r', hr', hrest⟩ := h r hr
  exact ⟨r', run_of_done hr', hrest⟩

theorem reads_again (h : Reads (loop.step s) stream (.inl s') middle)
    (hrest : Reads (loop.run s') middle b rest) : Reads (loop.run s) stream b rest := by
  intro r hr
  obtain ⟨r', hr', hmiddle⟩ := h r hr
  rw [run_of_again hr']
  exact hrest r' hmiddle

theorem fails_done (h : Fails (loop.step s) stream e) : Fails (loop.run s) stream e :=
  fun r hr => run_of_error (h r hr)

end Loop

/-! ## Exact reads -/

section Exact

variable (eof : ε)

/-- One read of an exact read. -/
def exactStep (n : Nat) (taken : List α) : Reading α ε (List α ⊕ List α) := fun r =>
  if n ≤ taken.length then .ok (.inr taken, r)
  else if r.fillBuf = [] then .error eof
  else
    let more := r.fillBuf.take (n - taken.length)
    .ok (.inl (taken ++ more), r.consume more.length)

theorem exactStep_progress {n : Nat} {taken taken' : List α} {r r' : Pieces α}
    (h : exactStep eof n taken r = .ok (.inl taken', r')) :
    r'.stream.length < r.stream.length := by
  rw [exactStep] at h
  split at h
  next => cases h
  next hshort =>
    split at h
    next => cases h
    next hfill =>
      cases h
      have hpos := List.length_pos_of_ne_nil hfill
      have hle := r.length_fillBuf_le
      rw [Pieces.stream_consume (List.length_take_le' _ _), List.length_drop, List.length_take]
      omega

def exactLoop (n : Nat) : Loop α (List α) (List α) ε := ⟨exactStep eof n, exactStep_progress eof⟩

/-- Read exactly so many elements; the end of the stream before that is an error. -/
def readExact (n : Nat) : Reading α ε (List α) := (exactLoop eof n).run []

theorem exactLoop_gives (n : Nat) (taken : List α) (r : Pieces α) :
    Gives ((exactLoop eof n).run taken) r
      (if n ≤ taken.length + r.stream.length then
        .ok (taken ++ r.stream.take (n - taken.length), n - taken.length)
      else .error eof) := by
  induction taken, r using (exactLoop eof n).induction with
  | round taken r ih =>
    have hstep : (exactLoop eof n).step taken r = exactStep eof n taken r := rfl
    simp only [exactStep] at hstep
    by_cases hn : n ≤ taken.length
    · rw [if_pos hn] at hstep
      rw [if_pos (hn.trans (Nat.le_add_right _ _)), Nat.sub_eq_zero_of_le hn, List.take_zero,
        List.append_nil]
      exact ⟨r, Loop.run_of_done hstep, rfl⟩
    rw [if_neg hn] at hstep
    by_cases hfill : r.fillBuf = []
    · rw [if_pos hfill] at hstep
      rw [if_neg (by simpa [Pieces.fillBuf_eq_nil hfill] using hn)]
      exact Loop.run_of_error hstep
    rw [if_neg hfill] at hstep
    have hrest := ih _ _ hstep
    generalize hm : (r.fillBuf.take (n - taken.length)).length = m at hstep hrest
    have hle : m ≤ r.fillBuf.length := hm ▸ List.length_take_le' _ _
    have hlength : m ≤ r.stream.length := hle.trans r.length_fillBuf_le
    have hmore : r.fillBuf.take (n - taken.length) = r.stream.take m := by
      rw [r.take_fillBuf, hm]
    have hcount : n - taken.length = m + (n - (taken.length + m)) := by
      rw [List.length_take] at hm
      omega
    have hrange : n ≤ taken.length + r.stream.length ↔
        n ≤ taken.length + m + (r.stream.length - m) := by omega
    have hgives := Loop.gives_again hstep (Pieces.stream_consume hle) hrest
    rw [hmore, List.length_append, List.length_take_of_le hlength, Pieces.stream_consume hle,
      List.length_drop, List.append_assoc] at hgives
    simp only [hrange]
    split at hgives
    next hn =>
      rw [if_pos hn, hcount, List.take_add]
      exact hgives
    next hn =>
      rw [if_neg hn]
      exact hgives

variable {eof}

theorem readExact_reads {n : Nat} {taken rest : List α} (h : taken.length = n) :
    Reads (readExact eof n) (taken ++ rest) taken rest := by
  intro r hr
  have hgives := exactLoop_gives eof n [] r
  have hlength : r.stream.length = n + rest.length := by
    rw [hr, List.length_append, h]
  rw [if_pos (by simp [hlength]), hr, List.length_nil, Nat.sub_zero, List.nil_append,
    ← h, List.take_left] at hgives
  obtain ⟨r', hread, hdrop⟩ := hgives
  refine ⟨r', h ▸ hread, ?_⟩
  rw [hdrop, hr, List.drop_left]

theorem readExact_fails {n : Nat} {stream : List α} (h : stream.length < n) :
    Fails (readExact eof n) stream eof := by
  intro r hr
  have hgives := exactLoop_gives eof n [] r
  rw [if_neg (by simp [hr, h])] at hgives
  exact hgives

theorem readExact_uniform (n : Nat) : Uniform (readExact eof n : Reading α ε (List α)) := by
  apply Uniform.of_gives
    (fun stream => if n ≤ stream.length then .ok (stream.take n, n) else .error eof)
  intro r
  by_cases hn : n ≤ r.stream.length
  · rw [if_pos hn]
    obtain ⟨r', hread, hrest⟩ := readExact_reads (List.length_take_of_le hn) r
      (List.take_append_drop n r.stream).symm
    exact ⟨r', hread, hrest⟩
  · rw [if_neg hn]
    exact readExact_fails (Nat.lt_of_not_le hn) r rfl

end Exact

/-! ## All results of a stream -/

/-- A computation that returns one item after the other, none at the end of the stream. -/
structure Items (α β : Type u) (ε : Type v) where
  next : Reading α ε (Option β)
  progress : ∀ {r b r'}, next r = .ok (some b, r') → r'.stream.length < r.stream.length

namespace Items

/-- All items, each with the stream behind it, and the error that ends them, if one does. -/
def all (items : Items α β ε) (r : Pieces α) : List (β × List α) × Option ε :=
  match h : items.next r with
  | .error e => ([], some e)
  | .ok (none, _) => ([], none)
  | .ok (some b, r') =>
    have := items.progress h
    let rest := items.all r'
    ((b, r'.stream) :: rest.1, rest.2)
termination_by r.stream.length

variable {items : Items α β ε} {r r' : Pieces α} {b : β} {e : ε}

theorem all_of_error (h : items.next r = .error e) : items.all r = ([], some e) := by
  rw [all]
  split
  next h' =>
    rw [h] at h'
    cases h'
    rfl
  next h' => rw [h] at h'; cases h'
  next h' => rw [h] at h'; cases h'

theorem all_of_none (h : items.next r = .ok (none, r')) : items.all r = ([], none) := by
  rw [all]
  split
  next h' => rw [h] at h'; cases h'
  next => rfl
  next h' => rw [h] at h'; cases h'

theorem all_of_some (h : items.next r = .ok (some b, r')) :
    items.all r = ((b, r'.stream) :: (items.all r').1, (items.all r').2) := by
  rw [all]
  split
  next h' => rw [h] at h'; cases h'
  next h' => rw [h] at h'; cases h'
  next h' =>
    rw [h] at h'
    cases h'
    rfl

/-- The items do not depend on where the stream is cut. -/
theorem all_uniform (hnext : Uniform items.next) (h : r.stream = r'.stream) :
    items.all r = items.all r' := by
  induction hn : r.stream.length using Nat.strong_induction_on generalizing r r' with
  | _ n ih =>
    have hagree := hnext.agree h
    generalize hleft : items.next r = left at hagree
    generalize hright : items.next r' = right at hagree
    cases hagree with
    | error e => rw [all_of_error hleft, all_of_error hright]
    | ok next hstream =>
      cases next with
      | none => rw [all_of_none hleft, all_of_none hright]
      | some b =>
        have hrest := ih _ (hn ▸ items.progress hleft) hstream rfl
        rw [all_of_some hleft, all_of_some hright, hstream, hrest]

section All

variable (items) {stream rest : List α}

theorem all_of_reads (h : Reads items.next stream (some b) rest) (hr : r.stream = stream) :
    ∃ r', r'.stream = rest ∧ items.all r = ((b, rest) :: (items.all r').1, (items.all r').2) := by
  obtain ⟨r', hnext, hrest⟩ := h r hr
  refine ⟨r', hrest, ?_⟩
  rw [all_of_some hnext, hrest]

theorem all_of_ends (h : Reads items.next stream none rest) (hr : r.stream = stream) :
    items.all r = ([], none) := by
  obtain ⟨r', hnext, _⟩ := h r hr
  exact all_of_none hnext

theorem all_of_fails (h : Fails items.next stream e) (hr : r.stream = stream) :
    items.all r = ([], some e) :=
  all_of_error (h r hr)

theorem all_congr (h : items.next r = items.next r') : items.all r = items.all r' := by
  cases hnext : items.next r' with
  | error e => rw [all_of_error (h.trans hnext), all_of_error hnext]
  | ok next =>
    obtain ⟨_ | b, s⟩ := next
    · rw [all_of_none (h.trans hnext), all_of_none hnext]
    · rw [all_of_some (h.trans hnext), all_of_some hnext]

end All

end Items

end Reading

end VRCStreamer.Codec
