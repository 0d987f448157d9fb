import Ripple.Source.Reader

/-! What readers take.

`Reads` says what a reader makes of tokens and which it leaves. A sequence of readers reads with each of them in
turn (`Reads.bind`), and each of the small readers takes the token that it is made for. -/
namespace Ripple.Source

/-- The reader takes the tokens up to `rest` and gives `a`. -/
def Reads {α : Type} (r : Reader α) (tokens rest : List Token) (a : α) : Prop := r tokens = .ok (a, rest)

namespace Reads
variable {α β : Type} {tokens rest last : List Token} {a : α} {b : β}

theorem pure (a : α) (tokens : List Token) : Reads (Pure.pure a) tokens tokens a := rfl

theorem bind {r : Reader α} {f : α → Reader β} (h : Reads r tokens rest a) (hf : Reads (f a) rest last b) :
    Reads (r >>= f) tokens last b := by
  have hstep : (r >>= f) tokens = (r tokens >>= fun p => f p.1 p.2) := rfl
  rw [Reads, hstep, h]
  exact hf

theorem discard {r : Reader α} (h : Reads r tokens rest a) : Reads (Functor.discard r) tokens rest () := by
  have hstep : Functor.discard r tokens = (r tokens >>= fun p => Pure.pure ((), p.2)) := rfl
  rw [Reads, hstep, h]
  rfl

theorem get (tokens : List Token) : Reads MonadState.get tokens tokens tokens := rfl

theorem set (tokens rest : List Token) : Reads (MonadStateOf.set rest) tokens rest () := rfl

theorem peek (tokens : List Token) : Reads Reader.peek? tokens tokens tokens.head? := rfl

theorem next (t : Token) (rest : List Token) : Reads Reader.next (t :: rest) rest t := rfl

theorem atEnd (tokens : List Token) : Reads Reader.atEnd tokens tokens tokens.isEmpty := rfl

theorem peekText (t : Token) (rest : List Token) : Reads Reader.peekText (t :: rest) (t :: rest) t.text := rfl

theorem accept {t : Token} (rest : List Token) {text : String} (h : t.text = text) :
    Reads (Reader.accept text) (t :: rest) rest true := by
  refine (Reads.get _).bind ?_
  simp only
  rw [if_pos h]
  exact (Reads.set _ rest).bind (Reads.pure true rest)

theorem notAccepted {text : String} (h : ∀ t ∈ tokens.head?, t.text ≠ text) :
    Reads (Reader.accept text) tokens tokens false := by
  refine (Reads.get _).bind ?_
  cases tokens with
  | nil => exact Reads.pure false []
  | cons t rest =>
    simp only
    rw [if_neg (h t rfl)]
    exact Reads.pure false _

theorem expect {t : Token} (rest : List Token) {text : String} (h : t.text = text) :
    Reads (Reader.expect text) (t :: rest) rest () :=
  (accept rest h).bind (Reads.pure () rest)

theorem name {t : Token} (rest : List Token) (h : t.isName = true) : Reads Reader.name (t :: rest) rest t := by
  refine (Reads.get _).bind ?_
  simp only
  rw [if_pos h]
  exact (Reads.set _ rest).bind (Reads.pure t rest)

theorem attempt_of_error {r : Reader α} {stuck : Stuck} (h : r tokens = .error stuck) :
    Reads (Reader.attempt r) tokens tokens none := by
  rw [Reads, Reader.attempt, h]

end Reads

end Ripple.Source
