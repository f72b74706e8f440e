import DiagramDesk.Settings

/-! Seeds drawn at random. The dice are a stream of numbers and a count of those used up. -/
namespace DiagramDesk

structure Dice where
  numbers : Nat → Nat
  used : Nat := 0

namespace Dice

def roll (d : Dice) : Nat × Dice :=
  (d.numbers d.used % Settings.seedRange, { d with used := d.used + 1 })

end Dice

namespace Settings

def reshuffle (s : Settings) (d : Dice) : Settings × Dice :=
  let (seed, d) := d.roll
  ({ s with seed }, d)

/-- The style of the next rendering, for which a seed is drawn if seeds are to be random; the
settings keep the seed that was drawn. -/
def styleForRender (s : Settings) (d : Dice) : Style × Settings × Dice :=
  match s.seedMode with
  | .random =>
    let (s, d) := s.reshuffle d
    (s.style, s, d)
  | .fixed => (s.style, s, d)

end Settings

end DiagramDesk
