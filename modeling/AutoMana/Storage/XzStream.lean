import Mathlib.Tactic.SplitIfs
import AutoMana.Relational.Blocking

/-!
# Streaming an archive

`StorageService.iter_xz_json_kvitems`: a thread parses the pairs and puts them into a bounded queue,
behind them a sentinel, and its error into a cell. The consumer yields what it gets until the
sentinel, and then raises the error of the cell.
-/

namespace AutoMana.Storage

open Relational

variable {α ε : Type}

/-- What is in the queue. -/
inductive Item (α : Type) where
  | pair (kv : α)
  | sentinel
  deriving DecidableEq

/-- Where the thread is, with the pairs that the parser has not given yet. -/
inductive Producer (α ε : Type) where
  | parsing (rest : List α)
  | putting (kv : α) (rest : List α)
  | caught (exc : ε)
  | closing
  | finished
  deriving DecidableEq

/-- Where the consumer is. -/
inductive Consumer (α ε : Type) where
  | getting
  | got (item : Item α)
  | checking
  | ended (raised : Option ε)
  deriving DecidableEq

structure Stream (α ε : Type) where
  bridge : List (Item α)
  err : Option ε
  producer : Producer α ε
  consumer : Consumer α ε
  yielded : List α
  deriving DecidableEq

inductive Thread where
  | producer
  | consumer
  deriving DecidableEq

/-- The parser gives these pairs, and then ends or fails. -/
structure Archive (α ε : Type) where
  pairs : List α
  failure : Option ε

namespace Stream

def start (archive : Archive α ε) : Stream α ε := ⟨[], none, .parsing archive.pairs, .getting, []⟩

/-- `bridge.put(item)` waits while the queue is full. -/
def put (queueMaxsize : Nat) (item : Item α) (next : Producer α ε) (stream : Stream α ε) :
    Option (Stream α ε) :=
  if stream.bridge.length < queueMaxsize then
    some { stream with bridge := stream.bridge ++ [item], producer := next }
  else none

def producerStep (queueMaxsize : Nat) (failure : Option ε) (stream : Stream α ε) :
    Option (Stream α ε) :=
  match stream.producer with
  | .parsing (kv :: rest) => some { stream with producer := .putting kv rest }
  | .parsing [] => some { stream with producer := failure.elim .closing .caught }
  | .putting kv rest => stream.put queueMaxsize (.pair kv) (.parsing rest)
  | .caught exc => some { stream with err := some exc, producer := .closing }
  | .closing => stream.put queueMaxsize .sentinel .finished
  | .finished => none

/-- `bridge.get` waits while the queue is empty. -/
def consumerStep (stream : Stream α ε) : Option (Stream α ε) :=
  match stream.consumer with
  | .getting =>
    match stream.bridge with
    | [] => none
    | item :: rest => some { stream with bridge := rest, consumer := .got item }
  | .got (.pair kv) => some { stream with consumer := .getting, yielded := stream.yielded ++ [kv] }
  | .got .sentinel => some { stream with consumer := .checking }
  | .checking => some { stream with consumer := .ended stream.err }
  | .ended _ => none

def step (queueMaxsize : Nat) (failure : Option ε) (stream : Stream α ε) :
    Thread → Option (Stream α ε)
  | .producer => stream.producerStep queueMaxsize failure
  | .consumer => stream.consumerStep

end Stream

/-! ## What is on its way -/

/-- What the thread will still put. -/
def Producer.toPut : Producer α ε → List (Item α)
  | .parsing rest => rest.map .pair ++ [.sentinel]
  | .putting kv rest => .pair kv :: (rest.map .pair ++ [.sentinel])
  | .caught _ => [.sentinel]
  | .closing => [.sentinel]
  | .finished => []

/-- What the consumer holds behind the pairs it has yielded. -/
def Consumer.held : Consumer α ε → List (Item α)
  | .getting => []
  | .got item => [item]
  | .checking => [.sentinel]
  | .ended _ => [.sentinel]

/-- The turns that the thread takes without a put. -/
def Producer.pending : Producer α ε → Nat
  | .parsing _ => 3
  | .putting _ _ => 1
  | .caught _ => 2
  | .closing => 1
  | .finished => 0

def Consumer.pending : Consumer α ε → Nat
  | .getting => 0
  | .got _ => 2
  | .checking => 1
  | .ended _ => 0

/-- The error cell as far as the thread has come. -/
def Producer.ErrIs (failure err : Option ε) : Producer α ε → Prop
  | .parsing _ => err = none
  | .putting _ _ => err = none
  | .caught exc => err = none ∧ failure = some exc
  | .closing => err = failure
  | .finished => err = failure

/-- What was yielded, is held, is queued and will be put is what was parsed and a sentinel. -/
structure Stream.Carries (archive : Archive α ε) (stream : Stream α ε) : Prop where
  items : stream.yielded.map .pair ++ stream.consumer.held ++ stream.bridge ++
    stream.producer.toPut = archive.pairs.map .pair ++ [.sentinel]
  err : stream.producer.ErrIs archive.failure stream.err
  raised : ∀ raised, stream.consumer = .ended raised → raised = archive.failure

namespace Stream

variable {archive : Archive α ε} {stream next : Stream α ε} {queueMaxsize : Nat}

theorem start_carries (archive : Archive α ε) : (start archive).Carries archive :=
  ⟨rfl, rfl, fun _ hended => by cases hended⟩

theorem put_eq_some {item : Item α} {after : Producer α ε}
    (hput : stream.put queueMaxsize item after = some next) :
    next = { stream with bridge := stream.bridge ++ [item], producer := after } := by
  rw [put] at hput
  split_ifs at hput
  exact (Option.some.inj hput).symm

/-- A put moves the next item of the thread into the queue. -/
theorem Carries.put (hcarries : stream.Carries archive) (item : Item α) (after : Producer α ε)
    (hitem : stream.producer.toPut = item :: after.toPut)
    (herr : after.ErrIs archive.failure stream.err)
    (hput : stream.put queueMaxsize item after = some next) : next.Carries archive := by
  obtain rfl := put_eq_some hput
  refine ⟨?_, herr, hcarries.raised⟩
  rw [← hcarries.items, hitem]
  simp

theorem Carries.producerStep (hcarries : stream.Carries archive)
    (hstep : stream.producerStep queueMaxsize archive.failure = some next) :
    next.Carries archive := by
  obtain ⟨bridge, err, producer, consumer, yielded⟩ := stream
  have herr := hcarries.err
  cases producer with
  | parsing rest =>
    cases rest with
    | nil =>
      obtain rfl := Option.some.inj hstep
      -- the parser ends, or its failure is caught
      cases hfailure : archive.failure with
      | none => exact ⟨hcarries.items, (herr : err = none).trans hfailure.symm, hcarries.raised⟩
      | some exc => exact ⟨hcarries.items, ⟨herr, hfailure⟩, hcarries.raised⟩
    | cons kv rest =>
      obtain rfl := Option.some.inj hstep
      exact ⟨hcarries.items, herr, hcarries.raised⟩
  | putting kv rest => exact hcarries.put (.pair kv) (.parsing rest) rfl herr hstep
  | caught exc =>
    obtain rfl := Option.some.inj hstep
    exact ⟨hcarries.items, herr.2.symm, hcarries.raised⟩
  | closing => exact hcarries.put .sentinel .finished rfl herr hstep
  | finished => cases hstep

/-- Behind the first of the pairs there are the others and the sentinel. -/
theorem eq_of_map_pair {first second : List α} {rest : List (Item α)}
    (hsame : first.map .pair ++ rest = second.map .pair ++ [.sentinel]) :
    ∃ more, second = first ++ more ∧ rest = more.map .pair ++ [.sentinel] := by
  induction first generalizing second with
  | nil => exact ⟨second, rfl, hsame⟩
  | cons kv first ih =>
    cases second with
    | nil => cases (List.cons.inj hsame).1
    | cons other second =>
      obtain ⟨hkv, hsame⟩ := List.cons.inj hsame
      obtain ⟨more, rfl, hrest⟩ := ih hsame
      exact ⟨more, congrArg (· :: _) (Item.pair.inj hkv).symm, hrest⟩

/-- What is yielded is always a first part of the pairs. -/
theorem Carries.yielded_prefix (hcarries : stream.Carries archive) :
    stream.yielded <+: archive.pairs := by
  have hitems := hcarries.items
  rw [List.append_assoc, List.append_assoc] at hitems
  obtain ⟨more, hpairs, -⟩ := eq_of_map_pair hitems
  exact ⟨more, hpairs.symm⟩

/-- When the consumer has the sentinel, all pairs are yielded and the thread is at its end. -/
theorem Carries.of_sentinel (hcarries : stream.Carries archive)
    (hheld : stream.consumer.held = [.sentinel]) :
    stream.yielded = archive.pairs ∧ stream.producer = .finished := by
  have hitems := hcarries.items
  rw [hheld, List.append_assoc, List.append_assoc] at hitems
  obtain ⟨more, hpairs, hrest⟩ := eq_of_map_pair hitems
  cases more with
  | cons kv more => cases (List.cons.inj hrest).1
  | nil =>
    refine ⟨(List.append_nil _).symm.trans hpairs.symm, ?_⟩
    have htoPut := (List.append_eq_nil_iff.mp (List.cons.inj hrest).2).2
    cases hproducer : stream.producer with
    | finished => rfl
    | _ => simp [hproducer, Producer.toPut] at htoPut

theorem Carries.consumerStep (hcarries : stream.Carries archive)
    (hstep : stream.consumerStep = some next) : next.Carries archive := by
  obtain ⟨bridge, err, producer, consumer, yielded⟩ := stream
  have hitems := hcarries.items
  cases consumer with
  | getting =>
    cases bridge with
    | nil => cases hstep
    | cons item rest =>
      obtain rfl := Option.some.inj hstep
      refine ⟨?_, hcarries.err, fun _ hended => by cases hended⟩
      rw [← hitems]
      simp [Consumer.held]
  | got item =>
    cases item with
    | pair kv =>
      obtain rfl := Option.some.inj hstep
      refine ⟨?_, hcarries.err, fun _ hended => by cases hended⟩
      rw [← hitems]
      simp [Consumer.held]
    | sentinel =>
      obtain rfl := Option.some.inj hstep
      exact ⟨hitems, hcarries.err, fun _ hended => by cases hended⟩
  | checking =>
    obtain rfl := Option.some.inj hstep
    refine ⟨hitems, hcarries.err, fun raised hended => ?_⟩
    obtain ⟨-, hfinished⟩ := hcarries.of_sentinel rfl
    have herr := hcarries.err
    rw [hfinished] at herr
    exact (Consumer.ended.inj hended).symm.trans herr
  | ended raised => cases hstep

theorem Carries.step (hcarries : stream.Carries archive) {thread : Thread}
    (hstep : stream.step queueMaxsize archive.failure thread = some next) :
    next.Carries archive := by
  cases thread with
  | producer => exact hcarries.producerStep hstep
  | consumer => exact hcarries.consumerStep hstep

/-! ## The end of a run -/

/-- What is left to do: for each item more than for the turns that carry it through. -/
def work (stream : Stream α ε) : Nat :=
  6 * stream.producer.toPut.length + stream.producer.pending + 3 * stream.bridge.length +
    stream.consumer.pending

theorem producerStep_work {failure : Option ε}
    (hstep : stream.producerStep queueMaxsize failure = some next) : next.work < stream.work := by
  obtain ⟨bridge, err, producer, consumer, yielded⟩ := stream
  cases producer with
  | parsing rest =>
    cases rest with
    | nil =>
      obtain rfl := Option.some.inj hstep
      cases failure with
      | none => simp [work, Producer.toPut, Producer.pending]
      | some exc => simp [work, Producer.toPut, Producer.pending]
    | cons kv rest =>
      obtain rfl := Option.some.inj hstep
      simp [work, Producer.toPut, Producer.pending]
  | putting kv rest =>
    obtain rfl := put_eq_some hstep
    simp only [work, Producer.toPut, Producer.pending, List.length_append, List.length_cons,
      List.length_nil]
    omega
  | caught exc =>
    obtain rfl := Option.some.inj hstep
    simp [work, Producer.toPut, Producer.pending]
  | closing =>
    obtain rfl := put_eq_some hstep
    simp only [work, Producer.toPut, Producer.pending, List.length_append, List.length_cons,
      List.length_nil]
    omega
  | finished => cases hstep

theorem consumerStep_work (hstep : stream.consumerStep = some next) :
    next.work < stream.work := by
  obtain ⟨bridge, err, producer, consumer, yielded⟩ := stream
  cases consumer with
  | getting =>
    cases bridge with
    | nil => cases hstep
    | cons item rest =>
      obtain rfl := Option.some.inj hstep
      simp only [work, Consumer.pending, List.length_cons]
      omega
  | got item =>
    cases item with
    | pair kv =>
      obtain rfl := Option.some.inj hstep
      simp [work, Consumer.pending]
    | sentinel =>
      obtain rfl := Option.some.inj hstep
      simp [work, Consumer.pending]
  | checking =>
    obtain rfl := Option.some.inj hstep
    simp [work, Consumer.pending]
  | ended raised => cases hstep

theorem step_work {failure : Option ε} {thread : Thread}
    (hstep : stream.step queueMaxsize failure thread = some next) : next.work < stream.work := by
  cases thread with
  | producer => exact producerStep_work hstep
  | consumer => exact consumerStep_work hstep

/-- With room in the queue the thread is blocked at its end only. -/
theorem finished_of_blocked {failure : Option ε} (hroom : stream.bridge.length < queueMaxsize)
    (hblocked : stream.producerStep queueMaxsize failure = none) :
    stream.producer = .finished := by
  obtain ⟨bridge, err, producer, consumer, yielded⟩ := stream
  cases producer with
  | parsing rest => cases rest <;> cases hblocked
  | putting kv rest => exact absurd hblocked (by simp [producerStep, put, hroom])
  | caught exc => cases hblocked
  | closing => exact absurd hblocked (by simp [producerStep, put, hroom])
  | finished => rfl

/-- The consumer is blocked at its end, or when it gets from an empty queue. -/
theorem blocked_consumer (hblocked : stream.consumerStep = none) :
    (∃ raised, stream.consumer = .ended raised) ∨
      stream.consumer = .getting ∧ stream.bridge = [] := by
  obtain ⟨bridge, err, producer, consumer, yielded⟩ := stream
  cases consumer with
  | getting =>
    cases bridge with
    | nil => exact Or.inr ⟨rfl, rfl⟩
    | cons item rest => cases hblocked
  | got item => cases item <;> cases hblocked
  | checking => cases hblocked
  | ended raised => exact Or.inl ⟨raised, rfl⟩

/-- When both are blocked, the consumer is at its end: else the sentinel would be missing. -/
theorem Carries.ended_of_stuck (hcarries : stream.Carries archive) (hsize : 1 ≤ queueMaxsize)
    (hstuck : Blocking.Stuck (Stream.step queueMaxsize archive.failure) stream) :
    ∃ raised, stream.consumer = .ended raised := by
  rcases blocked_consumer (hstuck .consumer) with hended | ⟨hgetting, hempty⟩
  · exact hended
  · have hroom : stream.bridge.length < queueMaxsize := by
      rw [hempty]
      exact hsize
    have hfinished := finished_of_blocked hroom (hstuck .producer)
    have hitems := hcarries.items
    rw [hgetting, hempty, hfinished] at hitems
    have hsentinel : Item.sentinel ∈ stream.yielded.map Item.pair := by
      have hmem : Item.sentinel ∈ archive.pairs.map Item.pair ++ [Item.sentinel] :=
        List.mem_append_right _ (List.mem_singleton_self _)
      rw [← hitems] at hmem
      rwa [Consumer.held, Producer.toPut, List.append_nil, List.append_nil, List.append_nil] at hmem
    obtain ⟨kv, -, hkv⟩ := List.mem_map.mp hsentinel
    cases hkv

end Stream

/-- Whatever the turns: what is yielded is a first part of the pairs, the consumer ends with all of
them and raises the failure, it ends whenever both are blocked, and the turns are limited. -/
theorem iter_xz_json_kvitems (archive : Archive α ε) {queueMaxsize : Nat}
    (hsize : 1 ≤ queueMaxsize) {turns : List Thread} {stream : Stream α ε}
    (hrun : Blocking.run (Stream.step queueMaxsize archive.failure) (.start archive) turns =
      some stream) :
    stream.yielded <+: archive.pairs ∧
      (∀ raised, stream.consumer = .ended raised →
        stream.yielded = archive.pairs ∧ raised = archive.failure) ∧
      (Blocking.Stuck (Stream.step queueMaxsize archive.failure) stream →
        ∃ raised, stream.consumer = .ended raised) ∧
      turns.length ≤ (Stream.start archive).work := by
  have hcarries : stream.Carries archive :=
    Blocking.run_inv (fun hinv hstep => hinv.step hstep) (Stream.start_carries archive) hrun
  refine ⟨hcarries.yielded_prefix, fun raised hended => ?_, hcarries.ended_of_stuck hsize, ?_⟩
  · have hheld : stream.consumer.held = [.sentinel] := by rw [hended, Consumer.held]
    exact ⟨(hcarries.of_sentinel hheld).1, hcarries.raised raised hended⟩
  · have hlength := Blocking.run_length_le (fun hstep => Stream.step_work hstep) hrun
    omega

/-- Two pairs and an error. -/
def truncated : Archive Nat String := ⟨[1, 2], some "truncated"⟩

/-- They come through a queue of one place. -/
def truncatedTurns : List Thread :=
  [.producer, .producer, .producer, .consumer, .producer, .consumer, .producer, .consumer,
    .producer, .producer, .consumer, .consumer, .consumer, .consumer]

theorem iter_xz_json_kvitems_truncated :
    ([1, 2] = truncated.pairs ∧ some "truncated" = truncated.failure) ∧
      truncatedTurns.length ≤ (Stream.start truncated).work := by
  have hrun : Blocking.run (Stream.step 1 truncated.failure) (.start truncated) truncatedTurns =
      some ⟨[], some "truncated", .finished, .ended (some "truncated"), [1, 2]⟩ := rfl
  obtain ⟨-, hend, -, hlength⟩ := iter_xz_json_kvitems truncated (Nat.le_refl 1) hrun
  exact ⟨hend _ rfl, hlength⟩

end AutoMana.Storage
