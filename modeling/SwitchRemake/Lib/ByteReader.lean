import Mathlib.Data.List.Basic

/-!
# Reading bytes

A reader walks through a window of a buffer. A read past the end of the buffer is a fault of its
own, so that a reader that never asks for more than it has made sure of can be told from one that
does.
-/

namespace SwitchRemake.Lib

/-- Why reading ends without a value. -/
inductive Fault (ε : Type) where
  | outOfRange
  | thrown (error : ε)
  deriving DecidableEq

/-- A buffer of which the bytes before `stop` may be read. -/
structure Window where
  buffer : List UInt8
  stop : Nat

def Window.whole (buffer : List UInt8) : Window := ⟨buffer, buffer.length⟩

variable {ε α β : Type}

def slice (buffer : List UInt8) (p count : Nat) : Except (Fault ε) (List UInt8) :=
  if p + count ≤ buffer.length then .ok ((buffer.drop p).take count) else .error .outOfRange

def fromLittleEndian : List UInt8 → Nat
  | [] => 0
  | byte :: rest => byte.toNat + 256 * fromLittleEndian rest

def getUint (count : Nat) (buffer : List UInt8) (p : Nat) : Except (Fault ε) Nat :=
  (slice buffer p count).map fromLittleEndian

/-- A reader at a position returns a value and the position behind it. -/
structure Reader (ε α : Type) where
  run : Window → Nat → Except (Fault ε) (α × Nat)

namespace Reader

def andThen (m : Reader ε α) (g : α → Reader ε β) : Reader ε β :=
  ⟨fun w p =>
    match m.run w p with
    | .ok (a, q) => (g a).run w q
    | .error fault => .error fault⟩

instance : Monad (Reader ε) where
  pure a := ⟨fun _ p => .ok (a, p)⟩
  bind := andThen

theorem bind_run (m : Reader ε α) (g : α → Reader ε β) (w : Window) (p : Nat) :
    (m >>= g).run w p = match m.run w p with
      | .ok (a, q) => (g a).run w q
      | .error fault => .error fault := rfl

def fail (error : ε) : Reader ε α := ⟨fun _ _ => .error (.thrown error)⟩

def take (count : Nat) : Reader ε (List UInt8) :=
  ⟨fun w p => (slice w.buffer p count).map fun bytes => (bytes, p + count)⟩

def uint (count : Nat) : Reader ε Nat := do return fromLittleEndian (← take count)

/-- What is left of the window. -/
def room : Reader ε Int := ⟨fun w p => .ok ((w.stop : Int) - p, p)⟩

def need (want : Nat) (short : Int → ε) : Reader ε Unit :=
  ⟨fun w p =>
    if (w.stop : Int) - p < want then .error (.thrown (short ((w.stop : Int) - p)))
    else .ok ((), p)⟩

theorem take_run (count : Nat) (w : Window) (p : Nat) :
    (take count : Reader ε (List UInt8)).run w p =
      (slice w.buffer p count).map fun bytes => (bytes, p + count) := rfl

theorem room_run (w : Window) (p : Nat) :
    (room : Reader ε Int).run w p = .ok ((w.stop : Int) - p, p) := rfl

theorem need_run (want : Nat) (short : Int → ε) (w : Window) (p : Nat) :
    (need want short).run w p =
      if (w.stop : Int) - p < want then .error (.thrown (short ((w.stop : Int) - p)))
      else .ok ((), p) := rfl

def times (m : Reader ε α) : Nat → Reader ε (List α)
  | 0 => pure []
  | count + 1 => do
    let first ← m
    let rest ← times m count
    return first :: rest

end Reader

/-! ## What a reader has before it -/

/-- From `p` to the end of the window stand exactly these bytes. -/
structure Sees (w : Window) (p : Nat) (bytes : List UInt8) : Prop where
  ends : p + bytes.length = w.stop
  inside : w.stop ≤ w.buffer.length
  shows : bytes <+: w.buffer.drop p

theorem sees_whole (buffer : List UInt8) : Sees (.whole buffer) 0 buffer :=
  ⟨by simp [Window.whole], Nat.le_refl _, List.prefix_rfl⟩

theorem sees_window {buffer : List UInt8} {start stop : Nat} (ordered : start ≤ stop)
    (inside : stop ≤ buffer.length) :
    Sees ⟨buffer, stop⟩ start ((buffer.drop start).take (stop - start)) where
  ends := by simp; omega
  inside := inside
  shows := List.take_prefix _ _

/-- A prefix of the buffer can be read as if it were alone. -/
theorem slice_append (front rest : List UInt8) {p count : Nat} (fits : p + count ≤ front.length) :
    slice (ε := ε) (front ++ rest) p count = slice front p count := by
  have longer : p + count ≤ (front ++ rest).length := by
    rw [List.length_append]
    exact Nat.le_add_right_of_le fits
  rw [slice, slice, if_pos fits, if_pos longer, List.drop_append_of_le_length (by omega),
    List.take_append_of_le_length (by rw [List.length_drop]; omega)]

theorem slice_drop (buffer : List UInt8) {start : Nat} (inside : start ≤ buffer.length)
    (p count : Nat) :
    slice (ε := ε) (buffer.drop start) p count = slice buffer (start + p) count := by
  have same : p + count ≤ (buffer.drop start).length ↔ start + p + count ≤ buffer.length := by
    rw [List.length_drop]
    omega
  simp only [slice, same, List.drop_drop]

section Sees

variable {w : Window} {p : Nat} {front rest : List UInt8}

theorem Sees.skip (sees : Sees w p (front ++ rest)) : Sees w (p + front.length) rest where
  ends := by
    have ends := sees.ends
    rw [List.length_append] at ends
    omega
  inside := sees.inside
  shows := by
    obtain ⟨tail, split⟩ := sees.shows
    refine ⟨tail, ?_⟩
    rw [← List.drop_drop, ← split, List.append_assoc, List.drop_left]

theorem Sees.slice (sees : Sees w p (front ++ rest)) :
    slice (ε := ε) w.buffer p front.length = .ok front := by
  obtain ⟨tail, split⟩ := sees.shows
  have ends := sees.ends
  have inside := sees.inside
  rw [List.length_append] at ends
  have fits : p + front.length ≤ w.buffer.length := by omega
  rw [Lib.slice, if_pos fits, ← split, List.append_assoc, List.take_left]

end Sees

/-! ## Readers that stay in their window -/

/-- Two windows on the same bytes give the same value, or the same error. -/
inductive Agree (w v : Window) :
    Except (Fault ε) (α × Nat) → Except (Fault ε) (α × Nat) → Prop where
  | thrown (error : ε) : Agree w v (.error (.thrown error)) (.error (.thrown error))
  | read {p q : Nat} {rest : List UInt8} (a : α) (left : Sees w p rest) (right : Sees v q rest) :
      Agree w v (.ok (a, p)) (.ok (a, q))

/-- With `count` bytes before it the reader stays in its window, and only the bytes count. -/
def Stays (count : Nat) (m : Reader ε α) : Prop :=
  ∀ w v p q bytes, Sees w p bytes → Sees v q bytes → count ≤ bytes.length → Agree w v (m.run w p) (m.run v q)

/-- A reader of exactly `count` bytes, whatever they are. -/
def Fixed (count : Nat) (m : Reader ε α) : Prop :=
  ∀ bytes : List UInt8, bytes.length = count → ∃ a : α, ∀ w p rest, Sees w p (bytes ++ rest) →
    m.run w p = .ok (a, p + count)

/-- Before these bytes the reader returns `a` and stands behind them. -/
def Yields (m : Reader ε α) (bytes : List UInt8) (a : α) : Prop :=
  ∀ w p rest, Sees w p (bytes ++ rest) → m.run w p = .ok (a, p + bytes.length)

/-- The same where the window ends with these bytes. -/
def Finishes (m : Reader ε α) (bytes : List UInt8) (a : α) : Prop :=
  ∀ w p, Sees w p bytes → m.run w p = .ok (a, p + bytes.length)

section Rules

variable {m : Reader ε α} {g : α → Reader ε β} {count more : Nat}

theorem Fixed.pure (a : α) : Fixed 0 (pure a : Reader ε α) := by
  intro bytes empty
  exact ⟨a, fun w p rest _ => rfl⟩

theorem Fixed.take (count : Nat) : Fixed count (Reader.take count : Reader ε (List UInt8)) := by
  intro bytes length
  refine ⟨bytes, fun w p rest sees => ?_⟩
  rw [Reader.take_run, ← length, sees.slice]
  rfl

theorem Fixed.bind (first : Fixed count m) (second : ∀ a, Fixed more (g a)) :
    Fixed (count + more) (m >>= g) := by
  intro bytes length
  have short : (bytes.take count).length = count := by rw [List.length_take]; omega
  have long : (bytes.drop count).length = more := by rw [List.length_drop]; omega
  obtain ⟨a, reads⟩ := first _ short
  obtain ⟨b, continues⟩ := second a _ long
  refine ⟨b, fun w p rest sees => ?_⟩
  rw [← List.take_append_drop count bytes, List.append_assoc] at sees
  have later := sees.skip
  rw [short] at later
  rw [Reader.bind_run, reads w p _ sees]
  dsimp only
  rw [continues w _ rest later, Nat.add_assoc]

theorem Fixed.uint (count : Nat) : Fixed count (Reader.uint count : Reader ε Nat) :=
  Fixed.bind (Fixed.take count) fun _ => Fixed.pure _

theorem Fixed.times (fixed : Fixed count m) : ∀ n, Fixed (n * count) (m.times n)
  | 0 => by
    rw [Nat.zero_mul]
    exact Fixed.pure []
  | n + 1 => by
    have again := Fixed.bind fixed fun a =>
      Fixed.bind (Fixed.times fixed n) fun rest => Fixed.pure (ε := ε) (a :: rest)
    rw [Nat.add_mul, Nat.one_mul, Nat.add_comm]
    exact again

theorem Stays.pure (a : α) : Stays count (pure a : Reader ε α) :=
  fun _ _ _ _ _ left right _ => .read a left right

theorem Stays.fail (error : ε) : Stays count (Reader.fail error : Reader ε α) :=
  fun _ _ _ _ _ _ _ _ => .thrown error

theorem Stays.mono (fewer : count ≤ more) (stays : Stays count m) : Stays more m :=
  fun w v p q bytes left right enough => stays w v p q bytes left right (Nat.le_trans fewer enough)

theorem Stays.bind (first : Stays count m) (second : ∀ a, Stays 0 (g a)) :
    Stays count (m >>= g) := by
  intro w v p q bytes left right enough
  have agree := first w v p q bytes left right enough
  rw [Reader.bind_run, Reader.bind_run]
  generalize m.run w p = one, m.run v q = other at agree
  cases agree with
  | thrown error => exact .thrown error
  | read a leftRest rightRest => exact second a w v _ _ _ leftRest rightRest (Nat.zero_le _)

theorem Fixed.bindStays (first : Fixed count m) (second : ∀ a, Stays more (g a)) :
    Stays (count + more) (m >>= g) := by
  intro w v p q bytes left right enough
  have short : (bytes.take count).length = count := by rw [List.length_take]; omega
  have long : more ≤ (bytes.drop count).length := by rw [List.length_drop]; omega
  rw [← List.take_append_drop count bytes] at left right
  obtain ⟨a, reads⟩ := first _ short
  have leftRest := left.skip
  have rightRest := right.skip
  rw [short] at leftRest rightRest
  rw [Reader.bind_run, Reader.bind_run, reads w p _ left, reads v q _ right]
  exact second a w v _ _ _ leftRest rightRest long

theorem Fixed.stays (fixed : Fixed count m) : Stays count m := by
  intro w v p q bytes left right enough
  have short : (bytes.take count).length = count := by rw [List.length_take]; omega
  rw [← List.take_append_drop count bytes] at left right
  obtain ⟨a, reads⟩ := fixed _ short
  have leftRest := left.skip
  have rightRest := right.skip
  rw [short] at leftRest rightRest
  rw [reads w p _ left, reads v q _ right]
  exact .read a leftRest rightRest

theorem Sees.room {w : Window} {p : Nat} {bytes : List UInt8} (sees : Sees w p bytes) :
    (w.stop : Int) - p = bytes.length := by
  have ends := sees.ends
  omega

theorem Stays.need {want : Nat} {short : Int → ε} {next : Unit → Reader ε β}
    (stays : Stays want (next ())) : Stays 0 (Reader.need want short >>= next) := by
  intro w v p q bytes left right _
  rw [Reader.bind_run, Reader.bind_run, Reader.need_run, Reader.need_run, left.room, right.room]
  by_cases less : (bytes.length : Int) < want
  · rw [if_pos less, if_pos less]
    exact .thrown _
  · rw [if_neg less, if_neg less]
    exact stays w v p q bytes left right (by omega)

theorem Stays.room {next : Int → Reader ε β} (stays : ∀ left : Nat, Stays left (next left)) :
    Stays 0 (Reader.room >>= next) := by
  intro w v p q bytes left right _
  rw [Reader.bind_run, Reader.bind_run, Reader.room_run, Reader.room_run, left.room, right.room]
  exact stays bytes.length w v p q bytes left right (Nat.le_refl _)

theorem Stays.times (stays : Stays 0 m) : ∀ n, Stays 0 (m.times n)
  | 0 => Stays.pure []
  | n + 1 => Stays.bind stays fun _ => Stays.bind (Stays.times stays n) fun _ => Stays.pure _

/-- A reader that stays in its window never reads outside the buffer. -/
theorem Stays.inRange {w : Window} {p : Nat} {bytes : List UInt8} (stays : Stays 0 m)
    (sees : Sees w p bytes) : m.run w p ≠ .error .outOfRange := by
  intro fault
  have agree := stays w w p p bytes sees sees (Nat.zero_le _)
  rw [fault] at agree
  cases agree

/-- A reader that stays in its window reads the same from a buffer of these bytes alone. -/
theorem Stays.alone {w : Window} {p : Nat} {bytes : List UInt8} (stays : Stays 0 m)
    (sees : Sees w p bytes) :
    (m.run w p).map Prod.fst = (m.run (.whole bytes) 0).map Prod.fst := by
  have agree := stays w (.whole bytes) p 0 bytes sees (sees_whole bytes) (Nat.zero_le _)
  generalize m.run w p = one, m.run (.whole bytes) 0 = other at agree
  cases agree with
  | thrown error => rfl
  | read a _ _ => rfl

/-! ## Readers before written bytes -/

theorem Yields.pure (a : α) : Yields (pure a : Reader ε α) [] a := fun _ _ _ _ => rfl

theorem Yields.take (bytes : List UInt8) :
    Yields (Reader.take bytes.length : Reader ε (List UInt8)) bytes bytes := by
  intro w p rest sees
  rw [Reader.take_run, sees.slice]
  rfl

theorem Yields.bind {front rest : List UInt8} {a : α} {b : β} (first : Yields m front a)
    (second : Yields (g a) rest b) : Yields (m >>= g) (front ++ rest) b := by
  intro w p tail sees
  rw [List.append_assoc] at sees
  rw [Reader.bind_run, first w p _ sees]
  dsimp only
  rw [second w _ tail sees.skip, List.length_append, Nat.add_assoc]

/-- What comes after the last read takes no bytes. -/
theorem Yields.closing {bytes : List UInt8} {a : α} {b : β} (first : Yields m bytes a)
    (second : Yields (g a) [] b) : Yields (m >>= g) bytes b := by
  have both := first.bind second
  rw [List.append_nil] at both
  exact both

/-- The last read of a record. -/
theorem Yields.last {bytes : List UInt8} {a : α} (reads : Yields m bytes a) (value : α → β) :
    Yields (m >>= fun a => Pure.pure (value a)) bytes (value a) :=
  reads.closing (Yields.pure (value a))

theorem Yields.uint (bytes : List UInt8) :
    Yields (Reader.uint bytes.length : Reader ε Nat) bytes (fromLittleEndian bytes) :=
  (Yields.take bytes).last fromLittleEndian

theorem Yields.need {want : Nat} {short : Int → ε} {next : Unit → Reader ε β}
    {bytes : List UInt8} {b : β} (enough : want ≤ bytes.length)
    (reads : Yields (next ()) bytes b) : Yields (Reader.need want short >>= next) bytes b := by
  intro w p rest sees
  have left := sees.room
  rw [List.length_append] at left
  have more : ¬ (w.stop : Int) - p < want := by omega
  rw [Reader.bind_run, Reader.need_run, if_neg more]
  exact reads w p rest sees

/-- What is left is more than what was written. -/
theorem Yields.room {next : Int → Reader ε β} {bytes : List UInt8} {b : β}
    (reads : ∀ left : Int, bytes.length ≤ left → Yields (next left) bytes b) :
    Yields (Reader.room >>= next) bytes b := by
  intro w p rest sees
  have left := sees.room
  rw [List.length_append] at left
  rw [Reader.bind_run, Reader.room_run]
  exact reads _ (by omega) w p rest sees

theorem Yields.times {write : β → List UInt8} {value : β → α} : ∀ {bs : List β},
    (∀ b ∈ bs, Yields m (write b) (value b)) →
      Yields (m.times bs.length) (bs.flatMap write) (bs.map value)
  | [], _ => Yields.pure []
  | b :: _, reads => Yields.bind (reads b List.mem_cons_self)
      ((Yields.times fun c later => reads c (List.mem_cons_of_mem b later)).last (value b :: ·))

/-- Values written one after the other. -/
theorem Yields.series {fronts : List (List UInt8)} {as : List α}
    (reads : List.Forall₂ (Yields m) fronts as) :
    Yields (m.times as.length) fronts.flatten as := by
  induction reads with
  | nil => exact Yields.pure []
  | cons first later ih => exact Yields.bind first (ih.last (_ :: ·))

/-! ## Readers before the last bytes of a window -/

theorem Yields.finishes {bytes : List UInt8} {a : α} (reads : Yields m bytes a) :
    Finishes m bytes a := by
  intro w p sees
  rw [← List.append_nil bytes] at sees
  exact reads w p [] sees

theorem Yields.bindFinishes {front rest : List UInt8} {a : α} {b : β} (first : Yields m front a)
    (second : Finishes (g a) rest b) : Finishes (m >>= g) (front ++ rest) b := by
  intro w p sees
  rw [Reader.bind_run, first w p _ sees]
  dsimp only
  rw [second w _ sees.skip, List.length_append, Nat.add_assoc]

theorem Finishes.last {bytes : List UInt8} {a : α} (reads : Finishes m bytes a) (value : α → β) :
    Finishes (m >>= fun a => Pure.pure (value a)) bytes (value a) := by
  intro w p sees
  rw [Reader.bind_run, reads w p sees]
  rfl

theorem Finishes.need {want : Nat} {short : Int → ε} {next : Unit → Reader ε β}
    {bytes : List UInt8} {b : β} (enough : want ≤ bytes.length)
    (reads : Finishes (next ()) bytes b) : Finishes (Reader.need want short >>= next) bytes b := by
  intro w p sees
  have left := sees.room
  have more : ¬ (w.stop : Int) - p < want := by omega
  rw [Reader.bind_run, Reader.need_run, if_neg more]
  exact reads w p sees

theorem Finishes.room {next : Int → Reader ε β} {bytes : List UInt8} {b : β}
    (reads : Finishes (next bytes.length) bytes b) : Finishes (Reader.room >>= next) bytes b := by
  intro w p sees
  rw [Reader.bind_run, Reader.room_run, sees.room]
  exact reads w p sees

/-! ## Readers that fail -/

/-- Before these bytes, up to the end of the window, the reader throws. -/
def Fails (m : Reader ε α) (error : ε) (bytes : List UInt8) : Prop :=
  ∀ w p, Sees w p bytes → m.run w p = .error (.thrown error)

theorem Fails.fail (error : ε) (bytes : List UInt8) :
    Fails (Reader.fail error : Reader ε α) error bytes := fun _ _ _ => rfl

theorem Fails.bind {error : ε} {bytes : List UInt8} (fails : Fails m error bytes) :
    Fails (m >>= g) error bytes := by
  intro w p sees
  rw [Reader.bind_run, fails w p sees]

theorem Yields.bindFails {error : ε} {front rest : List UInt8} {a : α} (first : Yields m front a)
    (second : Fails (g a) error rest) : Fails (m >>= g) error (front ++ rest) := by
  intro w p sees
  rw [Reader.bind_run, first w p rest sees]
  exact second w _ sees.skip

theorem Fails.need {error : ε} {want : Nat} {short : Int → ε} {next : Unit → Reader ε β}
    {bytes : List UInt8} (enough : want ≤ bytes.length) (fails : Fails (next ()) error bytes) :
    Fails (Reader.need want short >>= next) error bytes := by
  intro w p sees
  have left := sees.room
  have more : ¬ (w.stop : Int) - p < want := by omega
  rw [Reader.bind_run, Reader.need_run, if_neg more]
  exact fails w p sees

theorem Fails.times {error : ε} {rest : List UInt8} {write : β → List UInt8} {value : β → α}
    (fails : Fails m error rest) : ∀ {bs : List β} {n : Nat}, bs.length < n →
      (∀ b ∈ bs, Yields m (write b) (value b)) → Fails (m.times n) error (bs.flatMap write ++ rest)
  | _, 0, few, _ => absurd few (Nat.not_lt_zero _)
  | [], _ + 1, _, _ => Fails.bind fails
  | b :: bs, n + 1, few, reads => by
    have later : Fails (m.times n) error (bs.flatMap write ++ rest) :=
      Fails.times fails (Nat.lt_of_succ_lt_succ few) fun c after =>
        reads c (List.mem_cons_of_mem b after)
    rw [List.flatMap_cons, List.append_assoc]
    exact (reads b List.mem_cons_self).bindFails (Fails.bind later)

/-! ## What a reader has taken, and what it throws -/

/-- A value that is read from a whole buffer comes from bytes of this kind. -/
def Takes (m : Reader ε α) (kind : List UInt8 → α → Prop) : Prop :=
  ∀ buffer p a q, m.run (.whole buffer) p = .ok (a, q) →
    ∃ front, buffer.drop p = front ++ buffer.drop q ∧ kind front a

/-- Whatever is thrown is expected. -/
def Proper (expected : ε → Prop) (m : Reader ε α) : Prop :=
  ∀ w p error, m.run w p = .error (.thrown error) → expected error

/-- Whatever is thrown is expected, or the bytes before the reader are of this kind. -/
def Throws (expected : ε → Prop) (m : Reader ε α) (kind : List UInt8 → Prop) : Prop :=
  ∀ buffer p error, m.run (.whole buffer) p = .error (.thrown error) →
    expected error ∨ kind (buffer.drop p)

theorem run_bind_ok {w : Window} {p q : Nat} {b : β} (read : (m >>= g).run w p = .ok (b, q)) :
    ∃ a r, m.run w p = .ok (a, r) ∧ (g a).run w r = .ok (b, q) := by
  rw [Reader.bind_run] at read
  split at read
  · rename_i a r first
    exact ⟨a, r, first, read⟩
  · cases read

theorem run_bind_error {w : Window} {p : Nat} {fault : Fault ε}
    (failed : (m >>= g).run w p = .error fault) :
    m.run w p = .error fault ∨ ∃ a r, m.run w p = .ok (a, r) ∧ (g a).run w r = .error fault := by
  rw [Reader.bind_run] at failed
  split at failed
  · rename_i a r first
    exact .inr ⟨a, r, first, failed⟩
  · rename_i fault first
    cases failed
    exact .inl first

theorem Takes.mono {kind wider : List UInt8 → α → Prop} (takes : Takes m kind)
    (widens : ∀ front a, kind front a → wider front a) : Takes m wider := by
  intro buffer p a q read
  obtain ⟨front, split, taken⟩ := takes buffer p a q read
  exact ⟨front, split, widens front a taken⟩

theorem Takes.pure (a : α) : Takes (pure a : Reader ε α) fun front b => front = [] ∧ b = a := by
  intro buffer p b q read
  cases read
  exact ⟨[], rfl, rfl, rfl⟩

theorem Takes.fail (error : ε) (kind : List UInt8 → α → Prop) :
    Takes (Reader.fail error : Reader ε α) kind := by
  intro buffer p a q read
  cases read

theorem Takes.take (count : Nat) :
    Takes (Reader.take count : Reader ε (List UInt8)) fun front a =>
      front = a ∧ a.length = count := by
  intro buffer p a q read
  rw [Reader.take_run, slice] at read
  split at read
  · rename_i fits
    cases read
    have fits : p + count ≤ buffer.length := fits
    refine ⟨(buffer.drop p).take count, ?_, rfl, ?_⟩
    · rw [← List.drop_drop]
      exact (List.take_append_drop count _).symm
    · change ((buffer.drop p).take count).length = count
      rw [List.length_take, List.length_drop]
      omega
  · cases read

theorem Takes.bind {first : List UInt8 → α → Prop} {second : α → List UInt8 → β → Prop}
    (left : Takes m first) (right : ∀ a, Takes (g a) (second a)) :
    Takes (m >>= g) fun bytes b =>
      ∃ front rest a, bytes = front ++ rest ∧ first front a ∧ second a rest b := by
  intro buffer p b q read
  obtain ⟨a, r, one, two⟩ := run_bind_ok read
  obtain ⟨front, split, taken⟩ := left buffer p a r one
  obtain ⟨rest, parts, more⟩ := right a buffer r b q two
  exact ⟨front ++ rest, by rw [split, parts, List.append_assoc], front, rest, a, rfl, taken, more⟩

theorem Takes.need {want : Nat} {short : Int → ε} {next : Unit → Reader ε β}
    {kind : List UInt8 → β → Prop} (takes : Takes (next ()) kind) :
    Takes (Reader.need want short >>= next) kind := by
  intro buffer p b q read
  obtain ⟨a, r, checked, later⟩ := run_bind_ok read
  rw [Reader.need_run] at checked
  split at checked
  · cases checked
  · cases checked
    exact takes buffer p b q later

/-- One block for each value, in order. -/
theorem Takes.times {block : β → List UInt8} {fine : β → Prop}
    (takes : Takes m fun front _ => ∃ b, front = block b ∧ fine b) : ∀ n,
    Takes (m.times n) fun front _ => ∃ bs : List β, bs.length = n ∧ front = bs.flatMap block ∧
      ∀ b ∈ bs, fine b
  | 0 => (Takes.pure []).mono fun _ _ ⟨empty, _⟩ => ⟨[], rfl, empty, nofun⟩
  | n + 1 => by
    have both := Takes.bind takes fun a => Takes.bind (Takes.times takes n) fun rest =>
      Takes.pure (ε := ε) (a :: rest)
    refine both.mono ?_
    rintro _ _ ⟨_, _, a, rfl, ⟨b, rfl, first⟩, _, _, as, rfl, ⟨bs, count, rfl, later⟩, rfl, rfl⟩
    refine ⟨b :: bs, by rw [List.length_cons, count],
      by rw [List.append_nil, List.flatMap_cons], fun c among => ?_⟩
    cases List.mem_cons.mp among with
    | inl same => rw [same]; exact first
    | inr behind => exact later c behind

theorem Proper.pure {expected : ε → Prop} (a : α) : Proper expected (pure a : Reader ε α) := nofun

theorem Proper.fail {expected : ε → Prop} {error : ε} (fine : expected error) :
    Proper expected (Reader.fail error : Reader ε α) := by
  intro w p thrown failed
  cases failed
  exact fine

theorem Proper.take {expected : ε → Prop} (count : Nat) :
    Proper expected (Reader.take count : Reader ε (List UInt8)) := by
  intro w p error failed
  rw [Reader.take_run, slice] at failed
  split at failed <;> cases failed

theorem Proper.bind {expected : ε → Prop} (first : Proper expected m)
    (second : ∀ a, Proper expected (g a)) : Proper expected (m >>= g) := by
  intro w p error failed
  cases run_bind_error failed with
  | inl first' => exact first w p error first'
  | inr later =>
    obtain ⟨a, r, -, failed⟩ := later
    exact second a w r error failed

theorem Proper.uint {expected : ε → Prop} (count : Nat) :
    Proper expected (Reader.uint count : Reader ε Nat) :=
  Proper.bind (Proper.take count) fun _ => Proper.pure _

theorem Proper.need {expected : ε → Prop} {want : Nat} {short : Int → ε}
    (fine : ∀ left, expected (short left)) : Proper expected (Reader.need want short) := by
  intro w p error failed
  rw [Reader.need_run] at failed
  split at failed
  · cases failed
    exact fine _
  · cases failed

theorem Proper.times {expected : ε → Prop} (proper : Proper expected m) :
    ∀ n, Proper expected (m.times n)
  | 0 => Proper.pure []
  | n + 1 => Proper.bind proper fun _ => Proper.bind (Proper.times proper n) fun _ => Proper.pure _

theorem Throws.mono {expected : ε → Prop} {kind wider : List UInt8 → Prop}
    (throws : Throws expected m kind) (widens : ∀ bytes, kind bytes → wider bytes) :
    Throws expected m wider :=
  fun buffer p error failed => (throws buffer p error failed).imp_right (widens _)

theorem Throws.bind {expected : ε → Prop} {kind : List UInt8 → Prop}
    (throws : Throws expected m kind) (proper : ∀ a, Proper expected (g a)) :
    Throws expected (m >>= g) kind := by
  intro buffer p error failed
  cases run_bind_error failed with
  | inl first => exact throws buffer p error first
  | inr later =>
    obtain ⟨a, r, -, failed⟩ := later
    exact .inl (proper a _ r error failed)

theorem Takes.bindThrows {expected : ε → Prop} {taken : List UInt8 → α → Prop}
    {kind : α → List UInt8 → Prop} (takes : Takes m taken) (proper : Proper expected m)
    (throws : ∀ a, Throws expected (g a) (kind a)) :
    Throws expected (m >>= g) fun bytes =>
      ∃ front rest a, bytes = front ++ rest ∧ taken front a ∧ kind a rest := by
  intro buffer p error failed
  cases run_bind_error failed with
  | inl first => exact .inl (proper _ p error first)
  | inr later =>
    obtain ⟨a, r, read, failed⟩ := later
    obtain ⟨front, split, here⟩ := takes buffer p a r read
    exact (throws a buffer r error failed).imp_right fun odd => ⟨front, _, a, split, here, odd⟩

theorem Throws.need {expected : ε → Prop} {want : Nat} {short : Int → ε} {next : Unit → Reader ε β}
    {kind : List UInt8 → Prop} (fine : ∀ left, expected (short left))
    (throws : Throws expected (next ()) kind) :
    Throws expected (Reader.need want short >>= next) kind := by
  intro buffer p error failed
  cases run_bind_error failed with
  | inl first => exact .inl (Proper.need fine _ p error first)
  | inr later =>
    obtain ⟨a, r, checked, failed⟩ := later
    rw [Reader.need_run] at checked
    split at checked
    · cases checked
    · cases checked
      exact throws buffer p error failed

/-- The block that throws stands behind those that did not. -/
theorem Throws.times {expected : ε → Prop} {block : β → List UInt8} {fine : β → Prop}
    {kind : List UInt8 → Prop} (throws : Throws expected m kind)
    (takes : Takes m fun front _ => ∃ b, front = block b ∧ fine b) : ∀ n,
    Throws expected (m.times n) fun bytes => ∃ (bs : List β) (rest : List UInt8),
      bs.length < n ∧ bytes = bs.flatMap block ++ rest ∧ (∀ b ∈ bs, fine b) ∧ kind rest
  | 0 => fun _ _ _ failed => nomatch failed
  | n + 1 => by
    intro buffer p error failed
    cases run_bind_error failed with
    | inl first =>
      exact (throws buffer p error first).imp_right fun odd =>
        ⟨[], _, Nat.succ_pos n, rfl, nofun, odd⟩
    | inr later =>
      obtain ⟨a, r, read, failed⟩ := later
      obtain ⟨_, split, b, rfl, here⟩ := takes buffer p a r read
      refine (Throws.bind (Throws.times throws takes n) (fun _ => Proper.pure _) buffer r error
        failed).imp_right ?_
      rintro ⟨bs, rest, fewer, bytes, others, odd⟩
      refine ⟨b :: bs, rest, Nat.succ_lt_succ fewer, ?_, fun c among => ?_, odd⟩
      · rw [split, bytes, List.flatMap_cons, List.append_assoc]
      · cases List.mem_cons.mp among with
        | inl same => rw [same]; exact here
        | inr behind => exact others c behind

end Rules

end SwitchRemake.Lib
