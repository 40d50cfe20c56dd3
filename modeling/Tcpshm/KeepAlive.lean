import Mathlib.Algebra.Order.Ring.Defs
import Mathlib.Data.List.Basic
import Mathlib.Tactic.Linarith

/-!
# Keeping a line alive

One side of a line sends something when it has not sent for some time, and the other side gives up
when it has heard nothing for too long. It does not give up as long as the sender is polled often
enough and what is on the line arrives in time.
-/

namespace KeepAlive

/-- The clocks count in `K`, which can be the integers or the reals. -/
structure Timing (K : Type*) [CommRing K] [LinearOrder K] where
  /-- The sender, when it is polled, has sent within this time or sends. -/
  interval : K
  /-- The sender is polled at least this often. -/
  every : K
  /-- What is sent has arrived after this time. -/
  delay : K
  /-- How much later than the other side a side can start. -/
  lag : K
  /-- The receiver gives up after more than this time. -/
  timeout : K
  interval_nonneg : 0 ≤ interval
  every_nonneg : 0 ≤ every
  delay_nonneg : 0 ≤ delay
  lag_nonneg : 0 ≤ lag
  fits : lag + interval + every + delay ≤ timeout

/-- One direction of a line. The sender has noted when it was polled and when it has sent, and the
receiver when it has heard something. What is on the way carries the time at which it was sent. -/
structure Line (K α : Type*) where
  time : K
  sent : K
  polled : K
  heard : K
  chan : List (K × α)

variable {K α : Type*} [CommRing K] [LinearOrder K] {T : Timing K} {l : Line K α}

/-- What the sender sees to. The time that it notes is never later than the time at which it has
sent. -/
structure Beating (T : Timing K) (l : Line K α) : Prop where
  sent_le : l.sent ≤ l.polled
  polled_le : l.polled ≤ l.time
  due : l.polled ≤ l.sent + T.interval
  often : l.time ≤ l.polled + T.every
  stamp_le : ∀ b ∈ l.chan, b.1 ≤ l.time

/-- The receiver does not lag behind: what it can hear next, or has heard last, is not much younger
than the last time it has heard something. -/
structure Heard (T : Timing K) (l : Line K α) : Prop where
  quiet : l.chan = [] → l.sent ≤ l.heard + T.lag
  next : ∀ b ∈ l.chan.head?, b.1 ≤ l.heard + T.lag + T.interval + T.every

/-! ### What happens on a line -/

/-- The sender starts. -/
def Line.started (l : Line K α) (bs : List α) : Line K α :=
  { l with sent := l.time, polled := l.time, chan := bs.map (Prod.mk l.time) }

/-- The sender does something, by which it notes that it was polled at `polled` and has sent at
`sent`. -/
def Line.acts (l : Line K α) (sent polled : K) (bs : List α) : Line K α :=
  { l with sent := sent, polled := polled, chan := l.chan ++ bs.map (Prod.mk l.time) }

def Line.waits (l : Line K α) (d : K) : Line K α := { l with time := l.time + d }

/-- The receiver takes `n` things from the line and notes that it has heard at `heard`. -/
def Line.hears (l : Line K α) (n : Nat) (heard : K) : Line K α :=
  { l with heard := heard, chan := l.chan.drop n }

/-- Hearing does not bother the sender. -/
lemma Beating.hears (h : Beating T l) (n : Nat) (heard : K) : Beating T (l.hears n heard) :=
  ⟨h.sent_le, h.polled_le, h.due, h.often, fun b hb => h.stamp_le b (List.mem_of_mem_drop hb)⟩

lemma Heard.waits (h : Heard T l) (d : K) : Heard T (l.waits d) := ⟨h.quiet, h.next⟩

/-! ### The sender -/

variable [IsStrictOrderedRing K]

lemma Beating.started (T : Timing K) (l : Line K α) (bs : List α) : Beating T (l.started bs) := by
  refine ⟨le_rfl, le_rfl, ?_, ?_, ?_⟩
  · exact le_add_of_nonneg_right T.interval_nonneg
  · exact le_add_of_nonneg_right T.every_nonneg
  · intro b hb
    obtain ⟨x, -, rfl⟩ := List.mem_map.mp hb
    exact le_rfl

lemma Beating.acts (h : Beating T l) {sent polled : K} {bs : List α} (hsent : sent ≤ polled)
    (hpolled : polled ≤ l.time) (hlater : l.polled ≤ polled)
    (hdue : polled ≤ sent + T.interval) : Beating T (l.acts sent polled bs) := by
  refine ⟨hsent, hpolled, hdue, ?_, ?_⟩
  · exact h.often.trans (add_le_add_left hlater _)
  · intro b hb
    rcases List.mem_append.mp hb with hb | hb
    · exact h.stamp_le b hb
    · obtain ⟨x, -, rfl⟩ := List.mem_map.mp hb
      exact le_rfl

lemma Beating.waits (h : Beating T l) {d : K} (hd : 0 ≤ d)
    (hoften : l.time + d ≤ l.polled + T.every) : Beating T (l.waits d) := by
  have hle : l.time ≤ l.time + d := le_add_of_nonneg_right hd
  exact ⟨h.sent_le, h.polled_le.trans hle, h.due, hoften, fun b hb => (h.stamp_le b hb).trans hle⟩

/-! ### The receiver -/

/-- The sender starts when the receiver waits for it already. -/
lemma Heard.started (hwait : l.time ≤ l.heard + T.lag) (bs : List α) : Heard T (l.started bs) := by
  refine ⟨fun _ => hwait, ?_⟩
  intro b hb
  obtain ⟨x, -, rfl⟩ := List.mem_map.mp (List.mem_of_mem_head? hb)
  have hinterval := T.interval_nonneg
  have hevery := T.every_nonneg
  show l.time ≤ l.heard + _ + _ + _
  linarith

/-- The receiver has just heard something, or it has just started. -/
lemma Beating.heard (h : Beating T l) (hheard : l.time ≤ l.heard) : Heard T l := by
  have hlag := T.lag_nonneg
  have hinterval := T.interval_nonneg
  have hevery := T.every_nonneg
  have hsent := h.sent_le.trans h.polled_le
  refine ⟨fun _ => ?_, ?_⟩
  · linarith
  · intro b hb
    have hstamp := h.stamp_le b (List.mem_of_mem_head? hb)
    linarith

/-- What is sent to an idle line is not too late. -/
lemma Heard.acts (h : Heard T l) (hbeat : Beating T l) {sent : K} (polled : K) {bs : List α}
    (hkept : bs = [] → sent = l.sent) : Heard T (l.acts sent polled bs) := by
  refine ⟨?_, ?_⟩
  · intro hnil
    obtain ⟨hchan, hbs⟩ := List.append_eq_nil_iff.mp hnil
    show sent ≤ _
    rw [hkept (List.map_eq_nil_iff.mp hbs)]
    exact h.quiet hchan
  · intro b hb
    rw [Line.acts, List.head?_append] at hb
    cases hchan : l.chan with
    | nil =>
      rw [hchan] at hb
      obtain ⟨x, -, rfl⟩ := List.mem_map.mp (List.mem_of_mem_head? hb)
      have hquiet := h.quiet hchan
      have hdue := hbeat.due
      have hoften := hbeat.often
      show l.time ≤ l.heard + _ + _ + _
      linarith
    | cons a chan =>
      rw [hchan] at hb
      apply h.next
      rw [hchan]
      exact hb

/-- A receiver that does not find anything on the line does not give up. -/
theorem Heard.in_time (h : Heard T l) (hbeat : Beating T l)
    (hempty : ∀ b ∈ l.chan, l.time < b.1 + T.delay) : l.time - l.heard ≤ T.timeout := by
  have hfits := T.fits
  have hdelay := T.delay_nonneg
  cases hchan : l.chan with
  | nil =>
    have hquiet := h.quiet hchan
    have hdue := hbeat.due
    have hoften := hbeat.often
    linarith
  | cons b chan =>
    have hnext := h.next b (by rw [hchan]; rfl)
    have hway := hempty b (by rw [hchan]; exact List.mem_cons_self)
    linarith

/-- A receiver that waits for the sender to start does not give up. -/
lemma Timing.in_time_of_lag (T : Timing K) {t heard : K} (hwait : t ≤ heard + T.lag) :
    t - heard ≤ T.timeout := by
  have hfits := T.fits
  have hinterval := T.interval_nonneg
  have hevery := T.every_nonneg
  have hdelay := T.delay_nonneg
  linarith

end KeepAlive
