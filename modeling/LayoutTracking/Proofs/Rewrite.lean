import LayoutTracking.Proofs.Tiling
import LayoutTracking.SpanMap.Update

/-!
# Updates of tiles

What an updater does to a map, said of the tiles: each tile that meets the range is offered once,
in ascending order and as it was before the update, and an answer takes the place of the part of
the tile inside the range. There is no cursor here, and nothing is written while it is walked over.
-/

set_option autoImplicit false

namespace LayoutTracking

/-- What becomes of some tiles under an updater. -/
structure Rewriting (V σ : Type) where
  tiles : List (Tile V)
  state : σ
  writes : Nat

/-- The tiles that take the place of one that met the range. -/
def Tile.replace {V : Type} (range : Span) (tile : Tile V) : Option V → List (Tile V)
  | none => [tile]
  | some value =>
    (tile.trim (·.before range)).toList ++
      ⟨tile.span.intersect range, some value⟩ :: (tile.trim (·.after range)).toList

def Tile.offer {V : Type} (range : Span) (tile : Tile V) : Offer V :=
  match tile.content with
  | none => .insert (tile.span.intersect range)
  | some existing => .update existing

namespace Updater

variable {V σ : Type}

def answer (updater : Updater V σ) (state : σ) : Offer V → Option V × σ
  | .insert gap => updater.insert gap state
  | .update existing => updater.update existing state

/-- Offers each tile that meets the range, and puts the answers in place. -/
def rewrite (updater : Updater V σ) (range : Span) : List (Tile V) → σ → Rewriting V σ
  | [], state => ⟨[], state, 0⟩
  | tile :: rest, state =>
    if tile.span.overlaps range then
      let (answer, state) := updater.answer state (tile.offer range)
      let later := updater.rewrite range rest state
      { later with
        tiles := tile.replace range answer ++ later.tiles
        writes := answer.toList.length + later.writes }
    else
      let later := updater.rewrite range rest state
      { later with tiles := tile :: later.tiles }

def resume (updater : Updater V σ) (limit : Nat) (span : Span) (sofar : Rewriting V σ) :
    Rewriting V σ :=
  let next := updater.rewrite (span.intersect ⟨0, limit⟩) sofar.tiles sofar.state
  { next with writes := sofar.writes + next.writes }

variable (updater : Updater V σ) (range : Span)

theorem rewrite_missed {tiles : List (Tile V)} (state : σ)
    (missed : ∀ tile ∈ tiles, tile.span.overlaps range = false) :
    updater.rewrite range tiles state = ⟨tiles, state, 0⟩ := by
  induction tiles with
  | nil => rfl
  | cons tile rest ih =>
    have apart := missed tile List.mem_cons_self
    rw [rewrite, apart, if_neg Bool.false_ne_true,
      ih fun other member => missed other (.tail _ member)]

theorem rewrite_append (front back : List (Tile V)) (state : σ) :
    updater.rewrite range (front ++ back) state =
      let first := updater.rewrite range front state
      let second := updater.rewrite range back first.state
      ⟨first.tiles ++ second.tiles, second.state, first.writes + second.writes⟩ := by
  induction front generalizing state with
  | nil => simp [rewrite]
  | cons tile rest ih =>
    by_cases meets : tile.span.overlaps range = true
    · simp [rewrite, meets, ih, Nat.add_assoc]
    · simp [rewrite, meets, ih]

theorem rewrite_unwritten {tiles : List (Tile V)} {state : σ}
    (unwritten : (updater.rewrite range tiles state).writes = 0) :
    (updater.rewrite range tiles state).tiles = tiles := by
  induction tiles generalizing state with
  | nil => rfl
  | cons tile rest ih =>
    by_cases meets : tile.span.overlaps range = true
    · rw [rewrite, if_pos meets] at unwritten ⊢
      generalize updater.answer state (tile.offer range) = reply at unwritten ⊢
      obtain ⟨answer, next⟩ := reply
      cases answer with
      | none =>
        have onward := ih (show (updater.rewrite range rest next).writes = 0 by
          simpa using unwritten)
        simp [Tile.replace, onward]
      | some value =>
        simp only [Option.toList_some, List.length_singleton] at unwritten
        omega
    · rw [rewrite, if_neg meets] at unwritten ⊢
      exact congrArg (tile :: ·) (ih unwritten)

theorem resume_unwritten {limit : Nat} {span : Span} {sofar : Rewriting V σ}
    (unwritten : (updater.resume limit span sofar).writes = 0) :
    (updater.resume limit span sofar).tiles = sofar.tiles ∧ sofar.writes = 0 := by
  simp only [resume] at unwritten ⊢
  exact ⟨updater.rewrite_unwritten _ (by omega), by omega⟩

/-- What each answer keeps of the state and the tiles together, the whole update keeps. -/
theorem rewrite_preserves (Held : σ → List (Tile V) → Prop)
    (step : ∀ state front tile rest, Held state (front ++ tile :: rest) →
      let (answer, next) := updater.answer state (tile.offer range)
      Held next (front ++ tile.replace range answer ++ rest))
    {front tiles : List (Tile V)} {state : σ} (held : Held state (front ++ tiles)) :
    Held (updater.rewrite range tiles state).state
      (front ++ (updater.rewrite range tiles state).tiles) := by
  induction tiles generalizing front state with
  | nil => exact held
  | cons tile rest ih =>
    by_cases meets : tile.span.overlaps range = true
    · have next := step state front tile rest held
      rw [rewrite, if_pos meets]
      generalize updater.answer state (tile.offer range) = reply at next ⊢
      obtain ⟨answer, later⟩ := reply
      have onward := ih next
      rwa [List.append_assoc] at onward
    · have passed : Held state (front ++ [tile] ++ rest) := by
        rw [List.append_assoc]
        exact held
      have onward := ih passed
      rw [rewrite, if_neg meets]
      rwa [List.append_assoc] at onward

theorem answer_recorded (state : σ) (offers : List (Offer V)) (offer : Offer V) :
    updater.recorded.answer (state, offers) offer =
      ((updater.answer state offer).1, (updater.answer state offer).2, offers ++ [offer]) := by
  cases offer <;> rfl

/-- The record of an update is the list of the tiles that meet the range, each offered once. -/
theorem rewrite_recorded (tiles : List (Tile V)) (state : σ) (offers : List (Offer V)) :
    updater.recorded.rewrite range tiles (state, offers) =
      let plain := updater.rewrite range tiles state
      ⟨plain.tiles,
        (plain.state, offers ++
          (tiles.filter fun tile => tile.span.overlaps range).map (Tile.offer range)),
        plain.writes⟩ := by
  induction tiles generalizing state offers with
  | nil => simp [rewrite]
  | cons tile rest ih =>
    by_cases meets : tile.span.overlaps range = true
    · simp [rewrite, meets, ih, answer_recorded]
    · simp [rewrite, meets, ih]

end Updater

/-- Goes on with one stored span of a source after the other, each with the updater that is made
for its value. -/
def Rewriting.splice {V W σ : Type} (limit : Nat) (make : W → σ → Updater V σ × σ)
    (sources : List (Span × W)) (sofar : Rewriting V σ) : Rewriting V σ :=
  sources.foldl
    (fun sofar source =>
      let (updater, state) := make source.2 sofar.state
      updater.resume limit source.1 { sofar with state })
    sofar

theorem Rewriting.splice_unwritten {V W σ : Type} {limit : Nat} {make : W → σ → Updater V σ × σ}
    {sources : List (Span × W)} {sofar : Rewriting V σ}
    (unwritten : (sofar.splice limit make sources).writes = 0) :
    (sofar.splice limit make sources).tiles = sofar.tiles ∧ sofar.writes = 0 := by
  induction sources generalizing sofar with
  | nil => exact ⟨rfl, unwritten⟩
  | cons source rest ih =>
    obtain ⟨later, none⟩ := ih unwritten
    obtain ⟨now, start⟩ := Updater.resume_unwritten _ none
    exact ⟨later.trans now, start⟩

end LayoutTracking
