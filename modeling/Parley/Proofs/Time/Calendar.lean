import Parley.Proofs.Time.Duration
import Parley.Time.Calendar

/-!
The calendar before and after turn 0 and the cataclysm. Main statement: a turn is a day, an hour of it and a rest in
one way; time that passes adds up; whole days change neither the hour nor whether the sun is up, and whole years not
the season; the seasons take turns in blocks of ninety days; and the days since the cataclysm never become fewer.
-/

set_option autoImplicit false
set_option relaxedAutoImplicit false

namespace Parley

namespace Duration

variable {a b : Int64}

private theorem toInt_add_of_fits (h : Fits (a.toInt + b.toInt)) : (a + b).toInt = a.toInt + b.toInt := by
  obtain ⟨hlo, hhi⟩ := h
  rw [Int64.toInt_add]
  apply Int.bmod_eq_of_le <;> omega

private theorem toInt_sub_of_fits (h : Fits (a.toInt - b.toInt)) : (a - b).toInt = a.toInt - b.toInt := by
  obtain ⟨hlo, hhi⟩ := h
  rw [Int64.toInt_sub]
  apply Int.bmod_eq_of_le <;> omega

end Duration

namespace Season

def next : Season → Season
  | .spring => .summer
  | .summer => .autumn
  | .autumn => .winter
  | .winter => .spring

/-- The season of a block of ninety days; block 0 begins with day 0. -/
def ofBlock (b : Int) : Season :=
  match (b % 4).toNat with
  | 0 => .spring
  | 1 => .summer
  | 2 => .autumn
  | _ => .winter

private theorem ofBlock_add_four_mul (b k : Int) : ofBlock (b + 4 * k) = ofBlock b := by
  rw [ofBlock, Int.add_mul_emod_self_left]
  rfl

private theorem ofBlock_add_one (b : Int) : ofBlock (b + 1) = (ofBlock b).next := by
  have hsum : (b + 1) % 4 = (b % 4 + 1) % 4 := by omega
  have hcases : b % 4 = 0 ∨ b % 4 = 1 ∨ b % 4 = 2 ∨ b % 4 = 3 := by omega
  rw [ofBlock, ofBlock, hsum]
  rcases hcases with h | h | h | h
  all_goals
    rw [h]
    rfl

end Season

namespace Calendar

open Duration (Fits)

variable {c c' : Calendar} {d : Duration} {b : Int}

private theorem day_eq (c : Calendar) : c.day = c.turn.toInt / 86400 :=
  rfl

private theorem hour_eq (c : Calendar) : c.hour = c.turn.toInt % 86400 / 3600 :=
  rfl

/-- A turn is the start of an hour of a day, or less than an hour after it. -/
def Splits (turn day hour : Int) : Prop :=
  ∃ rest, turn = day * 86400 + hour * 3600 + rest ∧ 0 ≤ hour ∧ hour ≤ 23 ∧ 0 ≤ rest ∧ rest < 3600

private theorem splits_iff (c : Calendar) {day hour : Int} :
    Splits c.turn.toInt day hour ↔ day = c.day ∧ hour = c.hour := by
  rw [day_eq, hour_eq]
  constructor
  · rintro ⟨rest, hturn, hlo, hhi, hrest, hless⟩
    constructor <;> omega
  · rintro ⟨rfl, rfl⟩
    refine ⟨c.turn.toInt % 3600, ?_, ?_, ?_, ?_, ?_⟩ <;> omega

private theorem day_eq_tdiv_iff (c : Calendar) :
    c.day = c.turn.toInt.tdiv 86400 ↔ 0 ≤ c.turn.toInt ∨ 86400 ∣ c.turn.toInt := by
  rw [day_eq, Int.tdiv_eq_ediv]
  split
  · next hexact => exact ⟨fun _ => hexact, fun _ => by omega⟩
  · next hinexact =>
    refine ⟨fun hsame => ?_, fun hexact => absurd hexact hinexact⟩
    have hsign : (86400 : Int).sign = 1 := rfl
    omega

def InBlock (c : Calendar) (b : Int) : Prop :=
  90 * b ≤ c.day ∧ c.day < 90 * (b + 1)

instance (c : Calendar) (b : Int) : Decidable (c.InBlock b) :=
  inferInstanceAs (Decidable (_ ∧ _))

private theorem inBlock_iff : c.InBlock b ↔ c.day / 90 = b := by
  rw [InBlock]
  omega

private theorem season_eq (c : Calendar) : c.season = Season.ofBlock (c.day / 90) := by
  have hquarter : c.day % 360 / 90 = c.day / 90 % 4 := by omega
  rw [Season.ofBlock, ← hquarter]
  rfl

private theorem season_of_inBlock (h : c.InBlock b) : c.season = Season.ofBlock b := by
  rw [season_eq, inBlock_iff.1 h]

private theorem turn_advance (h : Fits (c.turn.toInt + d.turns.toInt)) :
    (c.advance d).turn.toInt = c.turn.toInt + d.turns.toInt :=
  Duration.toInt_add_of_fits h

private theorem advance_advance (c : Calendar) (d d' : Duration) : (c.advance d).advance d' = c.advance (d + d') :=
  congrArg (fun turn => { c with turn := turn }) (Int64.add_assoc c.turn d.turns d'.turns)

private theorem hour_advance {k : Int} (h : Fits (c.turn.toInt + d.turns.toInt)) (hdays : d.turns.toInt = k * 86400) :
    (c.advance d).hour = c.hour := by
  rw [hour_eq, hour_eq, turn_advance h]
  omega

private theorem isDay_of_hour_eq (h : c'.hour = c.hour) : c'.isDay = c.isDay := by
  rw [isDay, isDay, h]

private theorem season_advance {k : Int} (h : Fits (c.turn.toInt + d.turns.toInt))
    (hyears : d.turns.toInt = k * (360 * 86400)) : (c.advance d).season = c.season := by
  have hblock : (c.advance d).day / 90 = c.day / 90 + 4 * k := by
    rw [day_eq, day_eq, turn_advance h]
    omega
  rw [season_eq, season_eq, hblock, Season.ofBlock_add_four_mul]

private theorem daysSinceCataclysm_eq (h : Fits (c.turn.toInt - c.cataclysm.toInt)) :
    c.daysSinceCataclysm = (c.turn.toInt - c.cataclysm.toInt).tdiv 86400 := by
  change (c.turn - c.cataclysm).toInt.tdiv 86400 = _
  rw [Duration.toInt_sub_of_fits h]

/-- A turn splits in one way into its day, counted downwards before turn 0, an hour of it and less than an hour. Time
that passes adds up. Whole days change neither the hour nor whether the sun is up, and whole years of 360 days not the
season. Throughout a block of ninety days the season is one, in the next block it is the next, and block 0 is a spring.
The days since the cataclysm are cut off toward zero, and do not become fewer when time passes. -/
theorem splits_and_advances (c : Calendar) :
    (∀ day hour, Splits c.turn.toInt day hour ↔ day = c.day ∧ hour = c.hour) ∧
    c.day = c.turn.toInt.fdiv 86400 ∧
    (c.day = c.turn.toInt.tdiv 86400 ↔ 0 ≤ c.turn.toInt ∨ 86400 ∣ c.turn.toInt) ∧
    (∀ d d', (c.advance d).advance d' = c.advance (d + d')) ∧
    (∀ d, Fits (c.turn.toInt + d.turns.toInt) →
      (c.advance d).turn.toInt = c.turn.toInt + d.turns.toInt ∧ (c.advance d).cataclysm = c.cataclysm ∧
      ∀ k : Int,
        (d.turns.toInt = k * 86400 → (c.advance d).hour = c.hour ∧ (c.advance d).isDay = c.isDay) ∧
        (d.turns.toInt = k * (360 * 86400) → (c.advance d).season = c.season)) ∧
    (∀ b, c.InBlock b →
      (b = 0 → c.season = .spring) ∧
      (∀ c' : Calendar, c'.InBlock b → c'.season = c.season) ∧
      ∀ c' : Calendar, c'.InBlock (b + 1) → c'.season = c.season.next) ∧
    (Fits (c.turn.toInt - c.cataclysm.toInt) →
      c.daysSinceCataclysm = (c.turn.toInt - c.cataclysm.toInt).tdiv 86400 ∧
      ∀ d, 0 ≤ d.turns.toInt → Fits (c.turn.toInt + d.turns.toInt) →
        Fits (c.turn.toInt + d.turns.toInt - c.cataclysm.toInt) →
          c.daysSinceCataclysm ≤ (c.advance d).daysSinceCataclysm) := by
  refine ⟨fun day hour => c.splits_iff, ?_, c.day_eq_tdiv_iff, c.advance_advance, ?_, ?_, ?_⟩
  · rw [day_eq, Int.fdiv_eq_ediv_of_nonneg _ (by decide)]
  · intro d hfits
    refine ⟨turn_advance hfits, rfl, fun k => ⟨fun hdays => ?_, season_advance hfits⟩⟩
    have hhour := hour_advance hfits hdays
    exact ⟨hhour, isDay_of_hour_eq hhour⟩
  · intro b hblock
    have hseason := season_of_inBlock hblock
    refine ⟨?_, ?_, ?_⟩
    · rintro rfl
      exact hseason
    · intro c' hblock'
      rw [hseason, season_of_inBlock hblock']
    · intro c' hblock'
      rw [hseason, season_of_inBlock hblock', Season.ofBlock_add_one]
  · intro hsince
    refine ⟨daysSinceCataclysm_eq hsince, ?_⟩
    intro d hpassed hturn hlater
    have hlater' : Fits ((c.advance d).turn.toInt - (c.advance d).cataclysm.toInt) := by
      rwa [turn_advance hturn]
    have hmore : c.turn.toInt - c.cataclysm.toInt ≤ (c.advance d).turn.toInt - (c.advance d).cataclysm.toInt := by
      rw [turn_advance hturn]
      exact Int.sub_le_sub_right (by omega) _
    rw [daysSinceCataclysm_eq hsince, daysSinceCataclysm_eq hlater']
    exact Int.tdiv_le_tdiv (by decide) hmore

/-- One second before turn 0 and ninety-nine before the cataclysm it is the last hour of a winter's last day. A day later
it is the last hour of a spring's first, and 0 days since the cataclysm as before. -/
theorem splits_and_advances_before_turn_zero :
    let c : Calendar := ⟨-1, 98⟩
    let later : Calendar := c.advance ⟨86400⟩
    c.day = -1 ∧ c.hour = 23 ∧ later.hour = c.hour ∧ later.isDay = c.isDay ∧
      (c.advance ⟨-360 * 86400⟩).season = c.season ∧ later.season = c.season.next ∧
      c.daysSinceCataclysm ≤ later.daysSinceCataclysm := by
  intro c later
  obtain ⟨hsplits, -, -, -, htime, hblocks, hsince⟩ := splits_and_advances c
  obtain ⟨hday, hhour⟩ := (hsplits (-1) 23).1 ⟨3599, by decide⟩
  obtain ⟨-, -, hdays⟩ := htime ⟨86400⟩ (by decide)
  obtain ⟨-, -, hyears⟩ := htime ⟨-360 * 86400⟩ (by decide)
  obtain ⟨-, -, hnext⟩ := hblocks (-1) (by decide)
  obtain ⟨hhour', hday'⟩ := (hdays 1).1 (by decide)
  refine ⟨hday.symm, hhour.symm, hhour', hday', (hyears (-1)).2 (by decide), hnext later (by decide), ?_⟩
  exact (hsince (by decide)).2 _ (by decide) (by decide) (by decide)

end Calendar

end Parley
