import RelayTunnel.Backoff

/-!
# The delays of a series of attempts

What the product of a delay and the factor comes to is a matter of floating point: it may be any
duration, or none. Nothing here depends on it. The delays stay below the cap because the one that
a series keeps for its next attempt does, whatever it has grown to, and the attempts are counted
before anything grows. `Backoff.Calls` has one constructor for each thing that a call for the next
delay can do, and `Backoff.Stands` says how a series stands after so many calls.
-/

namespace RelayTunnel

theorem Duration.min_le_right (a b : Duration) : (a.min b).nanoseconds ≤ b.nanoseconds := by
  unfold Duration.min
  split
  · assumption
  · exact Nat.le_refl _

namespace Backoff

variable {settings : ReconnectSettings} {b b' : Backoff} {grow : Duration → Option Duration}
  {next : Backoff → Option (Duration × Backoff)} {reply : Option Duration} {n : Nat}

/-! ## Calls -/

/-- A call for the next delay: what it is, and the series after the call. -/
def call (next : Backoff → Option (Duration × Backoff)) (b : Backoff) :
    Option Duration × Backoff :=
  match next b with
  | some (delay, b) => (some delay, b)
  | none => (none, b)

/-- The series after so many calls. -/
def after (next : Backoff → Option (Duration × Backoff)) (b : Backoff) : Nat → Backoff
  | 0 => b
  | n + 1 => ((b.after next n).call next).2

/-- What the call that follows so many others yields. -/
def answer (next : Backoff → Option (Duration × Backoff)) (b : Backoff) (n : Nat) :
    Option Duration :=
  ((b.after next n).call next).1

/-- What a call can do. -/
inductive Calls (b : Backoff) : Option Duration → Backoff → Prop
  | spent (all : b.settings.maxAttempts ≤ b.attempt) : b.Calls none b
  /-- The first attempt is made at once. -/
  | first (allowed : b.attempt < b.settings.maxAttempts) (fresh : b.attempt = 0) :
      b.Calls (some .zero) { b with attempt := 1 }
  /-- A later one waits for the delay that was kept, and another one is kept. -/
  | later {grown : Duration} (allowed : b.attempt < b.settings.maxAttempts)
      (begun : b.attempt ≠ 0)
      (capped : grown.nanoseconds ≤ b.settings.maxBackoff.nanoseconds) :
      b.Calls (some b.current) { b with current := grown, attempt := b.attempt + 1 }

/-- Whatever a delay has grown to, if it is a duration at all, the cap is not exceeded. -/
theorem cap_le (settings : ReconnectSettings) (grown : Option Duration) :
    (cap settings grown).nanoseconds ≤ settings.maxBackoff.nanoseconds := by
  cases grown with
  | none => exact Nat.le_refl _
  | some grown => exact Duration.min_le_right ..

/-- A call does nothing else. -/
theorem calls_of_nextWith (same : next b = b.nextWith grow) :
    b.Calls (b.call next).1 (b.call next).2 := by
  unfold call
  rw [same, nextWith]
  by_cases spent : b.settings.maxAttempts ≤ b.attempt
  · rw [if_pos spent]
    exact .spent spent
  · have allowed : b.attempt < b.settings.maxAttempts := Nat.not_le.mp spent
    rw [if_neg spent]
    by_cases fresh : b.attempt = 0
    · rw [if_pos fresh]
      exact .first allowed fresh
    · rw [if_neg fresh]
      exact .later allowed fresh (cap_le ..)

/-! ## Series -/

/-- How a series stands after so many calls. -/
structure Stands (settings : ReconnectSettings) (n : Nat) (b : Backoff) : Prop where
  limits : b.settings = settings
  attempt : b.attempt = min n settings.maxAttempts
  capped : b.current.nanoseconds ≤ settings.maxBackoff.nanoseconds
  /-- Up to the second call nothing has grown. -/
  ungrown : n ≤ 1 → b.current = settings.initialBackoff

namespace Stands

theorem start (ordered : settings.initialBackoff.nanoseconds ≤ settings.maxBackoff.nanoseconds) :
    Stands settings 0 (.start settings) where
  limits := rfl
  attempt := (Nat.zero_min _).symm
  capped := ordered
  ungrown _ := rfl

/-- Every call takes a series one call further. -/
theorem step (h : Stands settings n b) (calls : b.Calls reply b') :
    Stands settings (n + 1) b' := by
  have counted := h.attempt
  cases calls with
  | spent all =>
    rw [h.limits] at all
    exact {
      limits := h.limits
      attempt := by omega
      capped := h.capped
      ungrown := fun early => h.ungrown (by omega) }
  | first allowed fresh =>
    rw [h.limits] at allowed
    exact {
      limits := h.limits
      attempt := by
        show 1 = min (n + 1) settings.maxAttempts
        omega
      capped := h.capped
      ungrown := fun early => h.ungrown (by omega) }
  | @later grown allowed begun capped =>
    rw [h.limits] at allowed capped
    exact {
      limits := h.limits
      attempt := by
        show b.attempt + 1 = min (n + 1) settings.maxAttempts
        omega
      capped
      ungrown := fun early => absurd counted (by omega) }

/-- What the next call yields follows from how many there were. -/
theorem reply_eq (h : Stands settings n b) (calls : b.Calls reply b') :
    reply =
      if settings.maxAttempts ≤ n then none else if n = 0 then some .zero else some b.current := by
  have counted := h.attempt
  cases calls with
  | spent all =>
    rw [h.limits] at all
    rw [if_pos (by omega)]
  | first allowed fresh =>
    rw [h.limits] at allowed
    rw [if_neg (by omega), if_pos (by omega)]
  | later allowed begun capped =>
    rw [h.limits] at allowed
    rw [if_neg (by omega), if_neg (by omega)]

/-- When the attempts are used up, nothing changes any more. -/
theorem unchanged (h : Stands settings n b) (spent : settings.maxAttempts ≤ n)
    (calls : b.Calls reply b') : b' = b := by
  have counted := h.attempt
  cases calls with
  | spent all => rfl
  | first allowed | later allowed =>
    rw [h.limits] at allowed
    exact absurd allowed (by omega)

/-- No delay exceeds the cap. -/
theorem reply_le {delay : Duration} (h : Stands settings n b)
    (calls : b.Calls (some delay) b') : delay.nanoseconds ≤ settings.maxBackoff.nanoseconds := by
  cases calls with
  | first allowed fresh => exact Nat.zero_le _
  | later allowed begun capped => exact h.capped

end Stands

/-- A series whose calls multiply in whatever way makes one call after the other. -/
theorem calls_after (multiplies : ∀ b, ∃ grow, next b = b.nextWith grow) (b : Backoff) (n : Nat) :
    (b.after next n).Calls (b.answer next n) (b.after next (n + 1)) := by
  obtain ⟨grow, same⟩ := multiplies (b.after next n)
  exact calls_of_nextWith same

/-- So it stands after any number of calls. -/
theorem stands_after
    (ordered : settings.initialBackoff.nanoseconds ≤ settings.maxBackoff.nanoseconds)
    (multiplies : ∀ b, ∃ grow, next b = b.nextWith grow) (n : Nat) :
    Stands settings n ((start settings).after next n) := by
  induction n with
  | zero => exact .start ordered
  | succ n ih => exact ih.step (calls_after multiplies (start settings) n)

/-! ## The delays -/

/-- Whatever the products of delays and the factor come to: as many calls as there are attempts
    yield a delay, and every later one yields none and leaves the series as it is. The first delay
    is none at all, the second one the initial delay, and every delay is at most the cap. The
    attempts that are counted are the calls up to the number of attempts, and 32 bits hold them. -/
theorem delays_capped (settings : ReconnectSettings)
    (ordered : settings.initialBackoff.nanoseconds ≤ settings.maxBackoff.nanoseconds)
    (countable : settings.maxAttempts < UInt32.size)
    (next : Backoff → Option (Duration × Backoff))
    (multiplies : ∀ b, ∃ grow, next b = b.nextWith grow) :
    let after := (start settings).after next
    let answer := (start settings).answer next
    (∀ n, (∃ delay, answer n = some delay) ↔ n < settings.maxAttempts) ∧
      (∀ n, settings.maxAttempts ≤ n → answer n = none ∧ after (n + 1) = after n) ∧
      (0 < settings.maxAttempts → answer 0 = some .zero) ∧
      (1 < settings.maxAttempts → answer 1 = some settings.initialBackoff) ∧
      (∀ n delay, answer n = some delay →
        delay.nanoseconds ≤ settings.maxBackoff.nanoseconds) ∧
      ∀ n, (after n).attempt = min n settings.maxAttempts ∧ (after n).attempt < UInt32.size := by
  intro after answer
  have stands (n : Nat) : Stands settings n (after n) := stands_after ordered multiplies n
  have calls (n : Nat) : (after n).Calls (answer n) (after (n + 1)) :=
    calls_after multiplies (start settings) n
  have answers (n : Nat) : answer n =
      if settings.maxAttempts ≤ n then none
      else if n = 0 then some .zero
      else some (after n).current := (stands n).reply_eq (calls n)
  refine ⟨fun n => ?_, fun n spent => ⟨?_, ?_⟩, fun one => ?_, fun two => ?_,
    fun n delay yields => ?_, fun n => ?_⟩
  · rw [answers n]
    by_cases spent : settings.maxAttempts ≤ n
    · simp [spent]
    · have allowed : n < settings.maxAttempts := Nat.not_le.mp spent
      rw [if_neg spent]
      split <;> simp [allowed]
  · rw [answers n, if_pos spent]
  · exact (stands n).unchanged spent (calls n)
  · rw [answers 0, if_neg (by omega), if_pos rfl]
  · rw [answers 1, if_neg (by omega), if_neg (by omega), (stands 1).ungrown (by omega)]
  · exact (stands n).reply_le (yields ▸ calls n)
  · have counted := (stands n).attempt
    omega

/-- An infinite factor takes the third delay to the cap. After three attempts there is none, and
    no more of them are counted. -/
theorem delays_capped_infinite_factor :
    let settings : ReconnectSettings := { maxAttempts := 3, multiplier := Double.infinity }
    (settings.initialBackoff.nanoseconds ≤ settings.maxBackoff.nanoseconds ∧
        settings.maxAttempts < UInt32.size ∧ ∀ b, ∃ grow, Backoff.next b = b.nextWith grow) ∧
      (start settings).answer Backoff.next 1 = some (.milliseconds 200) ∧
      (start settings).answer Backoff.next 2 = some (.seconds 10) ∧
      (Duration.seconds 10).nanoseconds ≤ settings.maxBackoff.nanoseconds ∧
      (start settings).answer Backoff.next 3 = none ∧
      ((start settings).after Backoff.next 7).attempt = 3 := by
  intro settings
  have multiplies : ∀ b, ∃ grow, Backoff.next b = b.nextWith grow := fun b => ⟨_, rfl⟩
  have third : (start settings).answer Backoff.next 2 = some (.seconds 10) := by decide +kernel
  obtain ⟨-, spent, -, second, capped, counted⟩ :=
    delays_capped settings (by decide) (by decide) Backoff.next multiplies
  exact ⟨⟨by decide, by decide, multiplies⟩, second (by decide), third, capped 2 _ third,
    (spent 3 (by decide)).1, (counted 7).1⟩

end Backoff

end RelayTunnel
