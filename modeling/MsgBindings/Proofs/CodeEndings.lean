import MsgBindings.Batch
import MsgBindings.Proofs.Results

/-!
How generated files end. The code of a message ends in a brace (`code_ends`), and the text that declares
the modules in a semicolon, so the one is never the other (`code_ne_declarations`).
-/
namespace MsgBindings

namespace Layout

/-- Measuring leaves the pieces as they are. -/
theorem measure_pieces (pieces : List Piece) : (measure pieces).pieces.map Prod.fst = pieces := by
  induction pieces with
  | nil => rfl
  | cons piece rest ih =>
    cases piece with
    | opening breaking indent =>
      unfold measure
      dsimp only
      split <;> simp [ih]
    | _ => simp [measure,ih]

theorem texts_append (p : Position) (first rest : List (Piece × Nat)) :
    ∃ next : Position, p.texts (first ++ rest) = p.texts first ++ next.texts rest := by
  induction first generalizing p with
  | nil => exact ⟨p,rfl⟩
  | cons entry first ih =>
    obtain ⟨next,split⟩ := ih (p.place entry.1 entry.2).1
    exact ⟨next,by simp [Position.texts,split]⟩

/-- A text laid out ends in its last word, perhaps with the end of a line after it. -/
theorem render_ends (front : List Piece) (word : String) :
    ∃ before, render (box .consistent 0 (front ++ [.word word,.hard 0])) = before ++ word ∨
      render (box .consistent 0 (front ++ [.word word,.hard 0])) = before ++ word ++ "\n" := by
  have pieces := measure_pieces (box .consistent 0 (front ++ [.word word,.hard 0]))
  unfold render
  generalize (measure (box .consistent 0 (front ++ [.word word,.hard 0]))).pieces = measured at pieces ⊢
  have split : box .consistent 0 (front ++ [.word word,.hard 0]) =
      (.opening .consistent 0 :: front) ++ [.word word,.hard 0,.closing] := by simp [box]
  rw [split,List.map_eq_append_iff] at pieces
  obtain ⟨first,last,rfl,_,ending⟩ := pieces
  obtain ⟨a,b,c,rfl⟩ : ∃ a b c, last = [(.word word,a),(.hard 0,b),(.closing,c)] := by
    match last, ending with
    | [(_,a),(_,b),(_,c)], ending =>
      simp only [List.map_cons,List.map_nil,List.cons.injEq,and_true] at ending
      obtain ⟨rfl,rfl,rfl⟩ := ending
      exact ⟨a,b,c,rfl⟩
  obtain ⟨next,placed⟩ := texts_append Position.start first [(.word word,a),(.hard 0,b),(.closing,c)]
  have closes : ∀ p : Position, (p.place .closing c).2 = "" := by
    intro p
    unfold Position.place
    dsimp only
    split <;> rfl
  have line : ∀ p : Position, (p.place (.hard 0) b).2 = "" ∨ (p.place (.hard 0) b).2 = "\n" := by
    intro p
    simp only [Position.place,Piece.hard]
    split
    · exact .inl rfl
    · exact .inr (by simp)
  have written : (next.place (.word word) a).2 = Position.spaces next.pending ++ word := rfl
  rw [placed,String.join_append]
  simp only [Position.texts,String.join_cons,String.join_nil,closes,written,String.append_empty]
  refine ⟨String.join (Position.start.texts first) ++ Position.spaces next.pending,?_⟩
  rcases line (next.place (.word word) a).1 with none | ends
  · exact .inl (by simp only [none,String.append_empty,String.append_assoc])
  · exact .inr (by simp only [ends,String.append_assoc])

end Layout

namespace Target

theorem bodyPieces_ends (head : List Layout.Piece) (members : List (List Layout.Piece)) :
    ∃ front, bodyPieces head members = front ++ [.word "\x7d",.hard 0] := ⟨_,rfl⟩

theorem Item.pieces_ends (item : Item) : ∃ front, item.pieces = front ++ [.word "\x7d",.hard 0] := by
  cases item with
  | record comment derives name fields =>
    rw [pieces]
    obtain ⟨front,ends⟩ := bodyPieces_ends _ _
    exact ⟨_,by rw [ends,← List.append_assoc]⟩
  | defaults name values => exact bodyPieces_ends _ _
  | constants name members => exact bodyPieces_ends _ _
  | enumeration comment repr name variants =>
    rw [pieces]
    obtain ⟨front,ends⟩ := bodyPieces_ends _ _
    exact ⟨_,by rw [ends,← List.append_assoc]⟩

theorem itemsText_ends {items : List Item} (some : items ≠ []) :
    ∃ before, itemsText items = before ++ "\x7d" ∨ itemsText items = before ++ "\x7d" ++ "\n" := by
  obtain ⟨last,ending⟩ := Item.pieces_ends (items.getLast some)
  have split : items.flatMap Item.pieces =
      (items.dropLast.flatMap Item.pieces ++ last) ++ [.word "\x7d",.hard 0] := by
    rw [List.append_assoc,← ending]
    conv_lhs => rw [← List.dropLast_concat_getLast some]
    simp
  unfold itemsText
  rw [split]
  exact Layout.render_ends _ _

end Target

namespace Message

theorem generate_eq_ok {m : Message} {style : Style} {index : PackageIndex} {g : GeneratedModule} :
    m.generate style index = .ok g ↔
      ∃ items, m.items style index = .ok items ∧ g = ⟨style.preamble ++ Target.itemsText items,
        Target.identifier m.name,Target.moduleName m.name⟩ := by
  unfold generate
  simp only [bind_eq_ok,pure_eq_ok,eq_comm (a := g)]

theorem items_ne_nil {m : Message} {style : Style} {index : PackageIndex} {items : List Target.Item}
    (made : m.items style index = .ok items) : items ≠ [] := by
  simp only [Message.items,bind_eq_ok] at made
  obtain ⟨types,_,made⟩ := made
  split at made
  · cases made
  · cases made
    simp

theorem code_ends {m : Message} {style : Style} {index : PackageIndex} {g : GeneratedModule}
    (made : m.generate style index = .ok g) :
    ∃ before, g.code = before ++ "\x7d" ∨ g.code = before ++ "\x7d" ++ "\n" := by
  obtain ⟨items,some,rfl⟩ := generate_eq_ok.mp made
  obtain ⟨before,ends | ends⟩ := Target.itemsText_ends (items_ne_nil some)
  · exact ⟨style.preamble ++ before,.inl (by simp only [ends,String.append_assoc])⟩
  · exact ⟨style.preamble ++ before,.inr (by simp only [ends,String.append_assoc])⟩

end Message

theorem Batch.declarationsText_ends {style : Style} {modules : List GeneratedModule} (some : modules ≠ []) :
    ∃ before, Batch.declarationsText style modules = before ++ ";\n" := by
  unfold Batch.declarationsText
  dsimp only
  have sorted : (modules.mergeSort fun a b => decide (a.moduleName ≤ b.moduleName)) ≠ [] := by
    rw [ne_eq,← List.length_eq_zero_iff,List.length_mergeSort,List.length_eq_zero_iff]
    exact some
  generalize (modules.mergeSort fun a b => decide (a.moduleName ≤ b.moduleName)) = ms at sorted ⊢
  obtain ⟨init,last,rfl⟩ : ∃ init last, ms = init ++ [last] := ⟨_,_,(List.dropLast_concat_getLast sorted).symm⟩
  simp only [List.map_append,List.map_cons,List.map_nil,String.join_append,String.join_cons,String.join_nil,
    String.append_empty,← String.append_assoc]
  exact ⟨_,rfl⟩

/-- The code of a message is no text that declares modules. -/
theorem code_ne_declarations {m : Message} {style : Style} {index : PackageIndex} {g : GeneratedModule}
    {modules : List GeneratedModule} (made : m.generate style index = .ok g) (some : modules ≠ []) :
    g.code ≠ Batch.declarationsText style modules := by
  obtain ⟨before,ends⟩ := Message.code_ends made
  obtain ⟨before',ends'⟩ : ∃ before, Batch.declarationsText style modules = before ++ ";\n" :=
    Batch.declarationsText_ends some
  rw [ends']
  intro same
  rw [same] at ends
  -- The last two characters tell the texts apart.
  have last : ∀ text : String, (before' ++ ";\n").toList.reverse = text.toList.reverse →
      ∃ rest, text.toList.reverse = '\n' :: ';' :: rest := by
    intro text reversed
    exact ⟨before'.toList.reverse,by rw [← reversed]; simp⟩
  rcases ends with ends | ends
  · obtain ⟨rest,final⟩ := last _ (congrArg (fun s => s.toList.reverse) ends)
    simp at final
  · obtain ⟨rest,final⟩ := last _ (congrArg (fun s => s.toList.reverse) ends)
    simp at final

end MsgBindings
