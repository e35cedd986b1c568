import PageScript.Generation

namespace PageScript.Scripted

structure ModelScript where
  cancels : Bool
  fault? : Option Fault
  reply? : Option Text
  deriving DecidableEq, Repr

/-- A state, and the questions that a model was asked in it. -/
structure Conversation (σ : Type) where
  world : σ
  questions : List ModelRequest
  deriving Repr

namespace Conversation

variable {σ : Type}

def start (world : σ) : Conversation σ := ⟨world, []⟩

def putWorld (world : σ) (conversation : Conversation σ) : Conversation σ :=
  { conversation with world }

/-- The scripted model, where `cancel` is how the user cancels. -/
def client (script : ModelScript) (cancel : σ → σ) : ModelClient (Conversation σ) :=
  fun request conversation =>
    let world := if script.cancels then cancel conversation.world else conversation.world
    { value := match script.fault? with
        | some fault => .error fault
        | none => .ok script.reply?
      state := ⟨world, conversation.questions ++ [request]⟩
      log := [] }

end Conversation

end PageScript.Scripted
