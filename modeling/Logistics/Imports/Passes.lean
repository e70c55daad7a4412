import Logistics.Imports.Effects

/-!
# A pass over the rows

What a run over the rows does, row by row: each row is processed in the store and
with the references that the rows before it have left, and the first exception ends
the pass. What a handler does with one row lifts to a pass by induction over it.
-/

namespace Logistics.Imports

open Logistics.Library Handlers

variable [Collation]

/-- The results of a pass that starts with these references and this store, and the
store that it leaves. -/
inductive Pass (P : HandlerPlatform) (settings : ImportSettings) :
    List ParsedImportRow → List String → HandlerStore → List ImportRowProcessResult →
      HandlerStore → Prop
  | nil (seen : List String) (s : HandlerStore) : Pass P settings [] seen s [] s
  | stopped (row : ParsedImportRow) (rest : List ParsedImportRow) (seen : List String)
      (ω : ℕ → Input) (s s' : HandlerStore) (e : ServiceError)
      (h : (processRow P settings.type (settings.input row) seen).run executeQuery ω s =
        (.error e, s')) :
      Pass P settings (row :: rest) seen s [] s'
  | next (row : ParsedImportRow) (rest : List ParsedImportRow) (seen seen' : List String)
      (ω : ℕ → Input) (s s₁ s' : HandlerStore) (result : ImportRowProcessResult)
      (results : List ImportRowProcessResult)
      (h : (processRow P settings.type (settings.input row) seen).run executeQuery ω s =
        (.ok (result, seen'), s₁))
      (hrest : Pass P settings rest seen' s₁ results s') :
      Pass P settings (row :: rest) seen s (result :: results) s'

/-- A run over the rows always returns, with the results of a pass. -/
theorem importRows_pass (P : HandlerPlatform) (settings : ImportSettings)
    (rows : List ParsedImportRow) (seen : List String) (ω : ℕ → Input) (s : HandlerStore) :
    ∃ results s', (importRows P settings rows seen).run executeQuery ω s = (.ok results, s') ∧
      Pass P settings rows seen s results s' := by
  induction rows generalizing seen ω s with
  | nil => exact ⟨[], s, rfl, .nil seen s⟩
  | cons row rest ih =>
      unfold importRows
      cases hrun : (processRow P settings.type (settings.input row) seen).run executeQuery ω s with
      | mk outcome s₁ =>
          have hmap := Program.run_map (b := executeQuery) some
            (processRow P settings.type (settings.input row) seen) ω s
          rw [hrun] at hmap
          cases outcome with
          | error e =>
              obtain ⟨ω', hcaught⟩ : ∃ ω', (Program.tryCatch (some <$> processRow P settings.type
                  (settings.input row) seen) fun _ => pure none).run executeQuery ω s =
                (Program.pure none).run executeQuery ω' s₁ := Program.run_tryCatch_error hmap
              obtain ⟨ω'', hnext⟩ := Program.exists_run_bind_ok hcaught
              exact ⟨[], s₁, hnext, .stopped row rest seen ω s s₁ e hrun⟩
          | ok answer =>
              obtain ⟨result, seen'⟩ := answer
              have hcaught : (Program.tryCatch (some <$> processRow P settings.type
                  (settings.input row) seen) fun _ => pure none).run executeQuery ω s =
                (.ok (some (result, seen')), s₁) := Program.run_tryCatch_ok hmap
              obtain ⟨ω', hnext⟩ := Program.exists_run_bind_ok hcaught
              obtain ⟨results, s', hresults, hpass⟩ := ih seen' ω' s₁
              obtain ⟨ω'', hlast⟩ := Program.exists_run_bind_ok hresults
              exact ⟨result :: results, s', (hnext.trans hlast), .next row rest seen seen' ω s s₁ s'
                result results hrun hpass⟩

theorem CustomerImportHandler.effect_of_run {P : HandlerPlatform} {settings : ImportSettings}
    (htype : settings.type = .customers) {row : ParsedImportRow} {seen : List String}
    {ω : ℕ → Input} {s s' : HandlerStore}
    {outcome : Except ServiceError (ImportRowProcessResult × List String)}
    (h : (Imports.processRow P settings.type (settings.input row) seen).run executeQuery ω s =
      (outcome, s')) :
    Effect (settings.input row) (readData P (settings.input row)) seen ω s outcome s' := by
  have heffect := CustomerImportHandler.processRow_effect P (settings.input row) seen ω s
  rw [htype] at h
  rw [show CustomerImportHandler.processRow P (settings.input row) seen =
    Imports.processRow P .customers (settings.input row) seen from rfl, h] at heffect
  exact heffect

theorem CarrierImportHandler.effect_of_run {P : HandlerPlatform} {settings : ImportSettings}
    (htype : settings.type = .carriers) {row : ParsedImportRow} {seen : List String}
    {ω : ℕ → Input} {s s' : HandlerStore}
    {outcome : Except ServiceError (ImportRowProcessResult × List String)}
    (h : (Imports.processRow P settings.type (settings.input row) seen).run executeQuery ω s =
      (outcome, s')) :
    Effect (settings.input row) (readData P (settings.input row)) seen ω s outcome s' := by
  have heffect := CarrierImportHandler.processRow_effect P (settings.input row) seen ω s
  rw [htype] at h
  rw [show CarrierImportHandler.processRow P (settings.input row) seen =
    Imports.processRow P .carriers (settings.input row) seen from rfl, h] at heffect
  exact heffect

end Logistics.Imports
