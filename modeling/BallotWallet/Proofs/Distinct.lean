import BallotWallet.Proofs.Building
import BallotWallet.Proofs.Json.Document
import Mathlib.Data.List.Permutation

/-!
# Votes with different counters

The fields of a vote are written in the order of their names, so the fragments of two votes of one
account begin alike, and then come the choice and the counter. Votes with different counters are
therefore different fragments, whatever else is in them.
-/

namespace BallotWallet

namespace Numeral

theorem append_cons_inj {c : Char} {xs ys xs' ys' : List Char} (hxs : c ∉ xs) (hys : c ∉ ys)
    (h : xs ++ c :: xs' = ys ++ c :: ys') : xs = ys ∧ xs' = ys' := by
  induction xs generalizing ys with
  | nil =>
      cases ys with
      | nil => exact ⟨rfl, (List.cons.inj h).2⟩
      | cons y ys =>
          obtain ⟨rfl, _⟩ := List.cons.inj h
          exact absurd List.mem_cons_self hys
  | cons x xs ih =>
      cases ys with
      | nil =>
          obtain ⟨rfl, _⟩ := List.cons.inj h
          exact absurd List.mem_cons_self hxs
      | cons y ys =>
          obtain ⟨rfl, hrest⟩ := List.cons.inj h
          have htails := ih (fun hc => hxs (List.mem_cons_of_mem _ hc))
            (fun hc => hys (List.mem_cons_of_mem _ hc)) hrest
          exact ⟨congrArg _ htails.1, htails.2⟩

/-- A number that ends at a comma can be told from what follows. -/
theorem toString_append_inj {m n : Int} {xs ys : List Char}
    (h : (toString m).toList ++ ',' :: xs = (toString n).toList ++ ',' :: ys) :
    m = n ∧ xs = ys := by
  have hcomma : ∀ k : Int, ',' ∉ (toString k).toList := by
    intro k hk
    exact (isWritten_of_mem hk).ne (by decide) rfl
  obtain ⟨htext, hrest⟩ := append_cons_inj (hcomma m) (hcomma n) h
  exact ⟨toString_injective (String.toList_inj.mp htext), hrest⟩

end Numeral

namespace Transaction

open Json

/-- The names of the fields of a vote, each with its place in the body. -/
def voteNames : List (Text × Nat) :=
  [(("type" : Text), 0), (("account" : Text), 1), (("counter" : Text), 2), (("fee" : Text), 3),
    (("valid_until" : Text), 4), (("block0" : Text), 5), (("vote_plan_id" : Text), 6),
    (("proposal_index" : Text), 7), (("choice" : Text), 8)]

theorem order_voteNames : Style.compact.order voteNames =
    [(("account" : Text), 1), (("block0" : Text), 5), (("choice" : Text), 8),
      (("counter" : Text), 2), (("fee" : Text), 3), (("proposal_index" : Text), 7),
      (("type" : Text), 0), (("valid_until" : Text), 4), (("vote_plan_id" : Text), 6)] := by
  cbv

/-- The characters in front of the choice. -/
def voteFront (account block0Hash : Document) : List Char :=
  fieldChars .compact ("account", account) ++ ',' ::
    (fieldChars .compact ("block0", block0Hash) ++ ',' :: (writeText "choice" ++ [':']))

/-- The characters between the choice and the counter. -/
def voteMiddle : List Char :=
  writeText "counter" ++ [':']

/-- A vote is written with its account and its block first, then the choice, then the counter. -/
theorem write_vote {tx : Transaction} (hkind : tx.kind = .voteCast) :
    ∃ back, write .compact tx.body = '\x7b' :: (voteFront tx.account tx.block0Hash ++
      ((toString tx.choice).toList ++ ',' ::
        (voteMiddle ++ ((toString tx.counter).toList ++ ',' :: back)))) := by
  let values : List Document := [Kind.voteCast.name, tx.account, .int tx.counter, .int tx.fee,
    .text tx.validUntil.text, tx.block0Hash, tx.votePlan, .int tx.proposalIndex, .int tx.choice]
  have hfields : tx.bodyFields.map (fun f => ((f.1 : Text), f.2)) =
      voteNames.map fun f => (f.1, values.getD f.2 .null) := by
    simp only [bodyFields, ownFields, hkind]
    rfl
  have horder := Style.compact.order_map (fun f : Text × Nat => values.getD f.2 .null) voteNames
  rw [order_voteNames] at horder
  unfold body Document.ofFields
  rw [write_object, hfields, horder]
  simp only [List.map_cons, List.map_nil, separated, Style.compact]
  simp only [voteFront, voteMiddle, fieldChars, List.append_assoc, List.cons_append]
  exact ⟨_, rfl⟩

end Transaction

namespace Fragment

open Json

theorem order_parts (body publicKey signature : Document) :
    Style.compact.order [(("body" : Text), body), (("public_key" : Text), publicKey),
      (("signature" : Text), signature)] =
      [(("body" : Text), body), (("public_key" : Text), publicKey),
        (("signature" : Text), signature)] := by
  have horder := Style.compact.order_map
    (fun f : Text × Nat => [body, publicKey, signature].getD f.2 .null)
    [(("body" : Text), 0), (("public_key" : Text), 1), (("signature" : Text), 2)]
  have hnames : Style.compact.order
      [(("body" : Text), 0), (("public_key" : Text), 1), (("signature" : Text), 2)] =
      [(("body" : Text), 0), (("public_key" : Text), 1), (("signature" : Text), 2)] := by
    cbv
  rw [hnames] at horder
  exact horder

/-- A fragment is written with its body first. -/
theorem write_document (fragment : Fragment) :
    ∃ back, write .compact fragment.document =
      '\x7b' :: (writeText "body" ++ ':' :: (write .compact fragment.transaction.body ++
        ',' :: back)) := by
  unfold document Document.ofFields
  rw [write_object, List.map_cons, List.map_cons, List.map_cons, List.map_nil, order_parts]
  simp only [List.map_cons, List.map_nil, separated, fieldChars, Style.compact,
    List.append_assoc, List.cons_append, List.nil_append]
  exact ⟨_, rfl⟩

end Fragment

namespace Wallet

variable {ω : Type} {office : Office ω} {ballot ballot' : Ballot} {counter counter' : Int}
  {validUntil validUntil' : BlockDate}

/-- Votes of a session that are the same bytes have the same counter. -/
theorem Office.counter_eq_of_bytes
    (h : ((office.voteOf ballot counter validUntil).signedBy office.identity).bytes =
      ((office.voteOf ballot' counter' validUntil').signedBy office.identity).bytes) :
    counter = counter' := by
  let tx := office.voteOf ballot counter validUntil
  let tx' := office.voteOf ballot' counter' validUntil'
  obtain ⟨back, hwrite⟩ := Fragment.write_document (tx.signedBy office.identity)
  obtain ⟨back', hwrite'⟩ := Fragment.write_document (tx'.signedBy office.identity)
  obtain ⟨rest, hvote⟩ := Transaction.write_vote (rfl : tx.kind = .voteCast)
  obtain ⟨rest', hvote'⟩ := Transaction.write_vote (rfl : tx'.kind = .voteCast)
  have htext : Json.write .compact (tx.signedBy office.identity).document =
      Json.write .compact (tx'.signedBy office.identity).document :=
    String.ofList_injective (Text.ofString_inj h)
  rw [hwrite, hwrite'] at htext
  -- the bodies begin alike up to the choice, and again up to the counter
  have hbody := (List.cons.inj (List.append_cancel_left (List.cons.inj htext).2)).2
  have hbody : Json.write .compact tx.body ++ ',' :: back =
      Json.write .compact tx'.body ++ ',' :: back' := hbody
  rw [hvote, hvote'] at hbody
  simp only [List.cons_append, List.append_assoc] at hbody
  have hchoice := List.append_cancel_left (List.cons.inj hbody).2
  have hcounter := List.append_cancel_left (Numeral.toString_append_inj hchoice).2
  exact (Numeral.toString_append_inj hcounter).1

end Wallet

end BallotWallet
