import SqlStyle.Check.Basic

/-! # The check that a document parses

It reports the first statement that does not parse. When all of them do, it keeps them for the
checks that come after it; otherwise nothing is kept, not even the statements before the failure. -/

namespace SqlStyle.Check

def parserSucceeds : Check where
  rule := .parserFailed
  fillsCache := true
  run c s session :=
    match session.cached? with
    | some _ => (.ok (Report.forSource s), session)
    | none =>
      let (parse, session) := session.parse c.toolkit s.text
      match parse.stop with
      | none =>
        (.ok (Report.forSource s), { session with cache := some ⟨parse.statements, true⟩ })
      | some (.failed e) => (c.ledger.report .parserFailed s [⟨e.position, e.message⟩], session)
      | some (.gaveUp fault) => (.error fault, session)

end SqlStyle.Check
