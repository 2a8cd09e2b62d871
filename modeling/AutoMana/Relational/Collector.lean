import AutoMana.Relational.Dict

/-!
# Collecting rows into files

Rows are read in frames, each of one key. They wait in the buffer of their key until there are
enough of them; then they are written behind the file of the key, and what is left is written in
the end. So the file of a key grows by what its batches are written as, and neither the other keys
nor the order between keys matter.
-/

namespace Relational

variable {K α β : Type}

/-! ## Of each key the last row -/

section KeepLast

variable [DecidableEq K] (key : α → K)

/-- `drop_duplicates(keep="last")` -/
def keepLast : List α → List α
  | [] => []
  | row :: rest => if key row ∈ rest.map key then keepLast rest else row :: keepLast rest

theorem keepLast_sublist (rows : List α) : (keepLast key rows).Sublist rows := by
  induction rows with
  | nil => exact List.Sublist.refl []
  | cons row rest ih =>
    rw [keepLast]
    split_ifs
    · exact ih.cons row
    · exact ih.cons_cons row

theorem mem_keys_keepLast {rows : List α} {value : K} :
    value ∈ (keepLast key rows).map key ↔ value ∈ rows.map key := by
  induction rows with
  | nil => exact Iff.rfl
  | cons row rest ih =>
    rw [keepLast]
    split_ifs with hlater
    · rw [ih, List.map_cons, List.mem_cons]
      exact (or_iff_right_of_imp fun hsame => hsame ▸ hlater).symm
    · rw [List.map_cons, List.mem_cons, ih, List.map_cons, List.mem_cons]

theorem nodup_keepLast (rows : List α) : ((keepLast key rows).map key).Nodup := by
  induction rows with
  | nil => exact List.nodup_nil
  | cons row rest ih =>
    rw [keepLast]
    split_ifs with hlater
    · exact ih
    · exact List.nodup_cons.mpr ⟨fun hmem => hlater ((mem_keys_keepLast key).mp hmem), ih⟩

/-- A row that is kept stands behind every other one of its key. -/
theorem keepLast_last {r : α → α → Prop} {rows : List α} (hsorted : rows.Pairwise r) {row other : α}
    (hrow : row ∈ keepLast key rows) (hother : other ∈ rows) (hsame : key other = key row) :
    other = row ∨ r other row := by
  induction rows with
  | nil => cases hother
  | cons first rest ih =>
    obtain ⟨hfirst, hrest⟩ := List.pairwise_cons.mp hsorted
    rw [keepLast] at hrow
    split_ifs at hrow with hlater
    · rcases List.mem_cons.mp hother with rfl | hmem
      · exact Or.inr (hfirst row ((keepLast_sublist key rest).subset hrow))
      · exact ih hrest hrow hmem
    · rcases List.mem_cons.mp hrow with rfl | hkept
      · -- no other row of its key comes behind it
        refine (List.mem_cons.mp hother).imp_right fun hmem => ?_
        exact absurd (hsame ▸ List.mem_map_of_mem hmem) hlater
      · rcases List.mem_cons.mp hother with rfl | hmem
        · have hkey := (mem_keys_keepLast key).mp (List.mem_map_of_mem hkept)
          exact absurd (hsame ▸ hkey) hlater
        · exact ih hrest hkept hmem

end KeepLast

/-! ## Batches -/

/-- The rows of one key in the batches in which they are written. -/
def flushes (limit : Nat) : List α → List (List α) → List (List α)
  | [], [] => []
  | row :: buffer, [] => [row :: buffer]
  | buffer, frame :: rest =>
    if frame = [] then flushes limit buffer rest
    else if limit ≤ (buffer ++ frame).length then (buffer ++ frame) :: flushes limit [] rest
    else flushes limit (buffer ++ frame) rest

theorem flatten_flushes (limit : Nat) (buffer : List α) (frames : List (List α)) :
    (flushes limit buffer frames).flatten = buffer ++ frames.flatten := by
  induction frames generalizing buffer with
  | nil => cases buffer <;> simp [flushes]
  | cons frame rest ih =>
    rw [flushes, List.flatten_cons]
    split_ifs with hempty
    · rw [ih, hempty, List.nil_append]
    · rw [List.flatten_cons, ih, List.nil_append, List.append_assoc]
    · rw [ih, List.append_assoc]

/-- Fewer rows than the limit are written in one batch. -/
theorem length_flushes_of_lt {limit : Nat} {buffer : List α} {frames : List (List α)}
    (hfew : (buffer ++ frames.flatten).length < limit) :
    (flushes limit buffer frames).length ≤ 1 := by
  induction frames generalizing buffer with
  | nil => cases buffer <;> simp [flushes]
  | cons frame rest ih =>
    rw [List.flatten_cons, ← List.append_assoc] at hfew
    rw [flushes]
    split_ifs with hempty hfull
    · rw [hempty, List.append_nil] at hfew
      exact ih hfew
    · rw [List.length_append] at hfew
      omega
    · exact ih hfew

/-! ## Collecting -/

/-- What was read and is not written yet, and what is written. -/
structure Collector (K α β : Type) where
  buffers : Table K (List α)
  files : Table K (List β)

namespace Collector

variable [DecidableEq K]

def buffer (collector : Collector K α β) (key : K) : List α :=
  (collector.buffers.get? key).getD []

def file (collector : Collector K α β) (key : K) : List β := (collector.files.get? key).getD []

def wait (collector : Collector K α β) (key : K) (rows : List α) : Collector K α β :=
  ⟨collector.buffers.set key (collector.buffer key ++ rows), collector.files⟩

section Steps

variable (write : List α → List β)

/-- What waits is written behind the file. -/
def flush (collector : Collector K α β) (key : K) : Collector K α β :=
  match collector.buffer key with
  | [] => collector
  | row :: rest =>
    ⟨collector.buffers.set key [],
      collector.files.set key (collector.file key ++ write (row :: rest))⟩

variable (limit : Nat)

/-- The rows of a frame wait, and are written when there are enough. -/
def read (collector : Collector K α β) (entry : K × List α) : Collector K α β :=
  if entry.2 = [] then collector
  else if limit ≤ ((collector.wait entry.1 entry.2).buffer entry.1).length then
    (collector.wait entry.1 entry.2).flush write entry.1
  else collector.wait entry.1 entry.2

/-- What is left is written in the end. -/
def finish (collector : Collector K α β) : Collector K α β :=
  (collector.buffers.rows.map Prod.fst).foldl (flush write) collector

def collect (collector : Collector K α β) (entries : List (K × List α)) : Collector K α β :=
  (entries.foldl (read write limit) collector).finish write

end Steps

variable {write : List α → List β} {limit : Nat} {collector : Collector K α β}

theorem flush_of_ne {key other : K} (hne : other ≠ key) :
    (collector.flush write key).buffer other = collector.buffer other ∧
      (collector.flush write key).file other = collector.file other := by
  rw [flush]
  cases collector.buffer key with
  | nil => exact ⟨rfl, rfl⟩
  | cons row rest =>
    simp only [buffer, file, Table.get?_set, if_neg hne]
    exact ⟨trivial, trivial⟩

theorem flush_self (key : K) :
    (collector.flush write key).buffer key = [] ∧
      (collector.flush write key).file key = collector.file key ++
        (flushes limit (collector.buffer key) []).flatMap write := by
  rw [flush]
  cases hbuffer : collector.buffer key with
  | nil => exact ⟨hbuffer, (List.append_nil _).symm⟩
  | cons row rest => simp [buffer, file, flushes]

theorem buffer_wait (key : K) (rows : List α) (other : K) :
    (collector.wait key rows).buffer other =
      if other = key then collector.buffer key ++ rows else collector.buffer other := by
  rw [wait, buffer, Table.get?_set]
  split_ifs <;> rfl

theorem file_wait (key : K) (rows : List α) (other : K) :
    (collector.wait key rows).file other = collector.file other := rfl

theorem read_of_ne {entry : K × List α} {key : K} (hne : key ≠ entry.1) :
    (collector.read write limit entry).buffer key = collector.buffer key ∧
      (collector.read write limit entry).file key = collector.file key := by
  have hwait : (collector.wait entry.1 entry.2).buffer key = collector.buffer key := by
    rw [buffer_wait, if_neg hne]
  rw [read]
  split_ifs
  · exact ⟨rfl, rfl⟩
  · obtain ⟨hbuffer, hfile⟩ :=
      @flush_of_ne K α β _ write (collector.wait entry.1 entry.2) _ _ hne
    exact ⟨hbuffer.trans hwait, hfile⟩
  · exact ⟨hwait, rfl⟩

/-- What a key has in its file once everything that waits for it is written. -/
def settled (write : List α → List β) (limit : Nat) (collector : Collector K α β) (key : K)
    (frames : List (List α)) : List β :=
  collector.file key ++ (flushes limit (collector.buffer key) frames).flatMap write

theorem settled_read_of_ne {entry : K × List α} {key : K} (hne : key ≠ entry.1)
    (frames : List (List α)) :
    (collector.read write limit entry).settled write limit key frames =
      collector.settled write limit key frames := by
  obtain ⟨hbuffer, hfile⟩ := @read_of_ne K α β _ write limit collector _ _ hne
  rw [settled, hbuffer, hfile, settled]

theorem settled_read_self (key : K) (rows : List α) (frames : List (List α)) :
    (collector.read write limit (key, rows)).settled write limit key frames =
      collector.settled write limit key (rows :: frames) := by
  have hwait : (collector.wait key rows).buffer key = collector.buffer key ++ rows := by
    rw [buffer_wait, if_pos rfl]
  rw [settled, settled, flushes, read]
  dsimp only
  rw [hwait]
  split_ifs with hempty hfull
  · rfl
  · obtain ⟨hbuffer, hfile⟩ := @flush_self K α β _ write limit (collector.wait key rows) key
    have hrow : collector.buffer key ++ rows ≠ [] := by simp [hempty]
    obtain ⟨row, rest, hcons⟩ := List.exists_cons_of_ne_nil hrow
    rw [hbuffer, hfile, hwait, file_wait, hcons, List.flatMap_cons, flushes, List.append_assoc,
      List.flatMap_singleton]
  · rw [hwait, file_wait]

theorem settled_flush (key other : K) :
    (collector.flush write key).settled write limit other [] =
      collector.settled write limit other [] := by
  by_cases hsame : other = key
  · subst hsame
    obtain ⟨hbuffer, hfile⟩ := @flush_self K α β _ write limit collector other
    rw [settled, hbuffer, hfile, settled, flushes, List.flatMap_nil, List.append_nil]
  · obtain ⟨hbuffer, hfile⟩ := @flush_of_ne K α β _ write collector _ _ hsame
    rw [settled, hbuffer, hfile, settled]

/-- A key whose buffer was flushed has nothing waiting, whatever is flushed after it. -/
theorem buffer_foldl_flush {keys : List K} {key : K}
    (hkey : key ∈ keys ∨ collector.buffer key = []) :
    (keys.foldl (flush write) collector).buffer key = [] := by
  induction keys generalizing collector with
  | nil => exact hkey.resolve_left List.not_mem_nil
  | cons first rest ih =>
    rw [List.foldl_cons]
    apply ih
    by_cases hsame : key = first
    · exact Or.inr (hsame ▸ (@flush_self K α β _ write 0 collector first).1)
    · rw [(@flush_of_ne K α β _ write collector _ _ hsame).1]
      exact hkey.imp_left fun hmem => (List.mem_cons.mp hmem).resolve_left hsame

theorem file_finish (key : K) :
    (collector.finish write).file key = collector.settled write limit key [] := by
  have hsettled : (collector.finish write).settled write limit key [] =
      collector.settled write limit key [] :=
    List.foldlRecOn (collector.buffers.rows.map Prod.fst) (flush write)
      (motive := fun next => next.settled write limit key [] =
        collector.settled write limit key []) rfl
      fun next hnext other _ => (settled_flush other key).trans hnext
  have hbuffer : (collector.finish write).buffer key = [] := by
    apply buffer_foldl_flush
    cases hstored : collector.buffers.get? key with
    | none => exact Or.inr (by rw [buffer, hstored]; rfl)
    | some rows => exact Or.inl ((Table.mem_keys_iff _ _).mpr (Option.isSome_of_eq_some hstored))
  rw [← hsettled, settled, hbuffer, flushes, List.flatMap_nil, List.append_nil]

/-- The file of a key grows by what its batches are written as. -/
theorem file_collect (entries : List (K × List α)) (key : K) :
    (collector.collect write limit entries).file key = collector.settled write limit key
      ((entries.filter (·.1 = key)).map Prod.snd) := by
  induction entries generalizing collector with
  | nil => exact file_finish key
  | cons entry rest ih =>
    rw [collect, List.foldl_cons, ← collect, ih, List.filter_cons]
    split_ifs with hkey
    · obtain rfl := of_decide_eq_true hkey
      rw [List.map_cons, settled_read_self]
    · exact settled_read_of_ne (fun hsame => hkey (decide_eq_true hsame.symm)) _

end Collector

end Relational
