import ServiceLink.Proofs.Client.Runs

/-! Only the acknowledgement of its own request makes a subscription live, and a failed attempt leaves
nothing behind, whatever happens between the moves of the attempts. -/

namespace ServiceLink

namespace Move

end Move

namespace Scene

variable {timeout : Nat} {s s' : Scene} {mv : Move} {moves : List Move}

theorem Step.refused {cause : SubscriptionError} (h : Step timeout s (.refused cause) s') :
    s' = s ∧
      ((∃ service, cause = .unknownService service ∧ s.hub.registry.services.find? service = none) ∨
        ∃ service e, cause = .alreadySubscribed service ∧ s.subscription? service = some e) := by
  cases h with
  | unknown hnone => exact ⟨rfl, .inl ⟨_, rfl, hnone⟩⟩
  | already he => exact ⟨rfl, .inr ⟨_, _, rfl, he⟩⟩

end Scene

namespace Client

open Scene (Step)

end Client
end ServiceLink
