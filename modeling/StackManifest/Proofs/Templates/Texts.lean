import StackManifest.Proofs.Templates.Generated

/-!
# An image and an amount that are given

Does a template give back the image and the amount that it is given? Unlike a name they stand
between quotes, so that no character of theirs can change what stands around them: whatever the two
texts are, the document that is generated is that of the template, with what the two texts are read
back as (`StackManifest.TemplateKind.generate_givenTexts`).

But what is written is an object text, and what is read is a markup text. The two agree on the first
65536 characters. A character beyond is **a pair of codes** in the one and two characters in the
other, so that exactly the texts without such a character are given back
(`StackManifest.TemplateKind.exists_generate_givenTexts`).
-/

namespace StackManifest

open Yaml

/-- The **images** of the services of a document, in order. -/
def Document.images (d : Document) : List (Option String) := d.services.toList.map (·.2.image)

/-- The price **amounts** of a document, in the order of its placements and of their prices. -/
def Document.amounts (d : Document) : List (Option String) :=
  d.placementProfiles.toList.flatMap fun p => p.2.pricing.toList.map (·.2.amount)

namespace TemplateKind

variable (k : TemplateKind)

/-- The **usual** name of a template is one that stands for itself, and its usual count can be
written. -/
theorem usual_name_count :
    isServiceName k.parts.name ∧ 0 < k.parts.count ∧ k.parts.name ∉ reservedWords ∧
      k.parts.name.length ≤ 1024 ∧ (Value.int k.parts.count).isWritable := by
  cases k <;> exact ⟨by decide, by decide, by decide, by decide, by cbv⟩

/-- With any image and any amount a template generates **its own document**, with the texts that
they are read back as. -/
theorem generate_givenTexts (image amount : String) :
    generate k.name (givenTexts image amount)
      = .ok (.ok (k.stackWith (readBack image) (readBack amount) k.parts.name k.parts.count)) := by
  obtain ⟨hname, hcount, hmem, hshort, hwritable⟩ := k.usual_name_count
  exact k.generate_eq_stackWith (k.gives_givenTexts image amount) hname hcount hmem hshort hwritable

variable (image amount name : String) (count : Int)

theorem images_stackWith : (k.stackWith image amount name count).images = [some image] := rfl

theorem amounts_stackWith : (k.stackWith image amount name count).amounts = [some amount] := rfl

/-- The document that a template generates has **the image that is given** exactly if all characters
of the image are among the first 65536, and likewise for the amount. -/
theorem exists_generate_givenTexts :
    ∃ d, generate k.name (givenTexts image amount) = .ok (.ok d) ∧
      (d.images = [some image] ↔ ∀ c ∈ image.toList, c.toNat < 0x10000) ∧
      (d.amounts = [some amount] ↔ ∀ c ∈ amount.toList, c.toNat < 0x10000) := by
  refine ⟨_, k.generate_givenTexts image amount, ?_, ?_⟩
  · rw [images_stackWith, List.singleton_inj, Option.some_inj, readBack_eq_iff]
  · rw [amounts_stackWith, List.singleton_inj, Option.some_inj, readBack_eq_iff]

/-- The digit one of another script, which lies beyond the first 65536 characters, is **lost** as an
amount. -/
theorem not_generate_digit :
    ¬ ∃ d, generate webApp.name (givenTexts "nginx:latest" (.singleton (Char.ofNat 0x1D7D9)))
        = .ok (.ok d) ∧
      d.images = [some "nginx:latest"] ∧
      d.amounts = [some (.singleton (Char.ofNat 0x1D7D9))] := by
  rintro ⟨d, hd, -, hamounts⟩
  rw [generate_givenTexts] at hd
  obtain rfl := Except.ok.inj (Except.ok.inj hd)
  rw [amounts_stackWith, List.singleton_inj, Option.some_inj, readBack_eq_iff] at hamounts
  exact absurd (hamounts (Char.ofNat 0x1D7D9) (by decide)) (by decide)

end TemplateKind

end StackManifest
