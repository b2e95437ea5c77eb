import MiniC.Proofs.Reporting

/-!
# Reporting to a device that fills up

**Devices.** A write hands bytes to a device, and the device takes some of them or fails. A text is
written by handing over what is left of it until all is taken or nothing more is (`writeAll`). The
line of a diagnostic is written in parts, and after a failure the parts that remain are not tried
(`writeParts`). The report counts all the same, and the next one tries again.

**The law (`Device.Limited`).** A device that holds `limit` bytes takes at least one byte of every
write until it is full, and none after that. How many it takes at a time is its own affair.

**Theorem (`console_keeps_first_bytes`).** Whatever the reports, the bytes kept are the first
`limit` bytes of the lines of all diagnostics, in UTF-8. A part, a line or a character may be cut
anywhere: once something was refused the device is full, so nothing later can slip in behind the cut
(`kept_writeParts`).

`Console` takes a line as a whole and cuts it. It keeps the same bytes as every such device.
-/

namespace MiniC

/-! ## Devices -/

/-- A device, with what it has kept of everything that was written to it. -/
class Device (δ : Type) where
  kept : δ → List UInt8
  /-- How many of the bytes were taken, or nothing if the write failed. -/
  write : δ → List UInt8 → Option Nat × δ

namespace Device

variable {δ : Type} [Device δ]

/-- Writes until nothing is left or nothing more is taken, and tells whether all was taken. -/
def writeAll (d : δ) (bytes : List UInt8) : Bool × δ :=
  if _ : bytes = [] then (true, d)
  else
    match write d bytes with
    | (some (n + 1), d') => writeAll d' (bytes.drop (n + 1))
    | (some 0, d') | (none, d') => (false, d')
termination_by bytes.length
decreasing_by
  have := List.length_pos_iff.2 ‹bytes ≠ []›
  rw [List.length_drop]
  omega

/-- Writes the parts of a text up to the first that is not taken whole. -/
def writeParts (d : δ) : List String → Bool × δ
  | [] => (true, d)
  | part :: parts =>
    match writeAll d part.toUTF8.data.toList with
    | (true, d') => writeParts d' parts
    | (false, d') => (false, d')

/-- **The law of a device that holds `limit` bytes.** -/
structure Limited (δ : Type) [Device δ] (limit : Nat) : Prop where
  takes (d : δ) (bytes : List UInt8) : bytes ≠ [] → (kept d).length < limit →
    ∃ n d', write d bytes = (some (n + 1), d') ∧ n + 1 ≤ bytes.length ∧
      (kept d).length + (n + 1) ≤ limit ∧ kept d' = kept d ++ bytes.take (n + 1)
  refuses (d : δ) (bytes : List UInt8) : bytes ≠ [] → limit ≤ (kept d).length →
    ((write d bytes).1 = none ∨ (write d bytes).1 = some 0) ∧ kept (write d bytes).2 = kept d

/-! ## What a device keeps -/

theorem take_append_take {α : Type} (n : Nat) (s t : List α) :
    (s.take n ++ t).take n = (s ++ t).take n := by
  rw [List.take_append, List.take_append, List.take_take, Nat.min_self, List.length_take]
  congr 2
  omega

variable {limit : Nat} {d : δ}

theorem Limited.writeAll_of_full (h : Limited δ limit) {bytes : List UInt8} (hbytes : bytes ≠ [])
    (hfull : limit ≤ (kept d).length) :
    (writeAll d bytes).1 = false ∧ kept (writeAll d bytes).2 = kept d := by
  obtain ⟨hrefused, hkept⟩ := h.refuses d bytes hbytes hfull
  rw [writeAll, dif_neg hbytes]
  rcases hwrite : write d bytes with ⟨taken, d'⟩
  rw [hwrite] at hrefused hkept
  rcases hrefused with rfl | rfl <;> exact ⟨rfl, hkept⟩

/-- **One text.** The device keeps what fits of it. If not all was taken, it is full. -/
theorem Limited.kept_writeAll (h : Limited δ limit) (hd : (kept d).length ≤ limit)
    (bytes : List UInt8) :
    kept (writeAll d bytes).2 = (kept d ++ bytes).take limit ∧
      ((writeAll d bytes).1 = false → limit ≤ (kept d ++ bytes).length) := by
  induction hlength : bytes.length using Nat.strong_induction_on generalizing d bytes with
  | _ length ih =>
  by_cases hbytes : bytes = []
  · subst hbytes
    rw [writeAll, dif_pos rfl, List.append_nil, List.take_of_length_le hd]
    exact ⟨rfl, nofun⟩
  rcases hd.lt_or_eq with hroom | hfull
  · obtain ⟨n, d', hwrite, hn, hfits, hkept⟩ := h.takes d bytes hbytes hroom
    have hd' : (kept d').length ≤ limit := by
      rw [hkept, List.length_append, List.length_take]
      omega
    have hrest : kept d' ++ bytes.drop (n + 1) = kept d ++ bytes := by
      rw [hkept, List.append_assoc, List.take_append_drop]
    have hshorter : (bytes.drop (n + 1)).length < length := by
      rw [List.length_drop]
      omega
    have hstep : writeAll d bytes = writeAll d' (bytes.drop (n + 1)) := by
      rw [writeAll, dif_neg hbytes, hwrite]
    rw [hstep, ← hrest]
    exact ih _ hshorter hd' _ rfl
  · obtain ⟨-, hkept⟩ := h.writeAll_of_full hbytes hfull.ge
    refine ⟨?_, fun _ => ?_⟩
    · rw [hkept, List.take_append_of_le_length hfull.ge, List.take_of_length_le hd]
    · rw [List.length_append]
      omega

/-- **The parts of a line.** It makes no difference that a text is written in parts, nor that those
after a failure are left out. -/
theorem Limited.kept_writeParts (h : Limited δ limit) (hd : (kept d).length ≤ limit)
    (parts : List String) :
    kept (writeParts d parts).2 =
      (kept d ++ (String.join parts).toUTF8.data.toList).take limit := by
  induction parts generalizing d with
  | nil =>
    have hempty : (String.join []).toUTF8.data.toList = [] := rfl
    rw [writeParts, hempty, List.append_nil, List.take_of_length_le hd]
  | cons part parts ih =>
    obtain ⟨hkept, hcut⟩ := h.kept_writeAll hd part.toUTF8.data.toList
    rw [writeParts, String.join_cons, utf8_append, ← List.append_assoc]
    rcases hwrite : writeAll d part.toUTF8.data.toList with ⟨taken, d'⟩
    rw [hwrite] at hkept hcut
    cases taken with
    | true =>
      have hd' : (kept d').length ≤ limit := by
        rw [hkept]
        exact List.length_take_le ..
      show kept (writeParts d' parts).2 = _
      rw [ih hd', hkept, take_append_take]
    | false =>
      rw [List.take_append_of_le_length (hcut rfl)]
      exact hkept

end Device

/-! ## A console on a device -/

/-- The texts that make up the line of a diagnostic, in the order in which they are written. -/
def Diagnostic.parts (d : Diagnostic) : List String :=
  ["ERROR: ", d.message, " at line ", toString d.span.start.line, ", column ",
    toString d.span.start.column, "\n"]

theorem Diagnostic.join_parts (d : Diagnostic) : String.join d.parts = d.render ++ "\n" := by
  simp only [parts, String.join_cons, String.join_nil, render, String.append_assoc]
  rfl

/-- The number of reports, and the device that their diagnostics were written to. -/
structure Printer (δ : Type) where
  errors : Nat
  device : δ

instance {δ : Type} [Device δ] : Reporter (Printer δ) where
  report p r := ⟨p.errors + 1, (Device.writeParts p.device r.diagnostic.parts).2⟩

/-- As many reports were counted as diagnostics collected, and of their lines the first `limit`
bytes were kept. -/
structure Collected.KeptBy (c : Collected) (limit errors : Nat) (kept : List UInt8) : Prop where
  errors : errors = c.diagnostics.length
  kept : kept = c.text.toUTF8.data.toList.take limit

namespace Collected.KeptBy

variable {c : Collected} {limit errors : Nat} {kept : List UInt8}

theorem init (limit : Nat) : KeptBy {} limit 0 [] := ⟨rfl, List.take_nil.symm⟩

theorem length_le (h : c.KeptBy limit errors kept) : kept.length ≤ limit := by
  rw [h.kept]
  exact List.length_take_le ..

/-- **One report.** Whoever counts it and keeps what fits of its line goes on as before. -/
theorem report (h : c.KeptBy limit errors kept) (r : Report) :
    (Reporter.report c r).KeptBy limit (errors + 1)
      ((kept ++ (r.diagnostic.render ++ "\n").toUTF8.data.toList).take limit) where
  errors := by
    show errors + 1 = (c.diagnostics ++ [r.diagnostic]).length
    rw [h.errors, List.length_append, List.length_singleton]
  kept := by rw [h.kept, Device.take_append_take, c.text_report, utf8_append c.text]

theorem console {console : Console} (hcapacity : console.capacity = some limit)
    (h : c.KeptBy limit console.errors console.written) (r : Report) :
    (Reporter.report console r).capacity = some limit ∧
      (Reporter.report c r).KeptBy limit (Reporter.report console r).errors
        (Reporter.report console r).written := by
  have hwritten : (Reporter.report console r).written = (console.written ++
      (r.diagnostic.render ++ "\n").toUTF8.data.toList).take limit := by
    show (console.write (r.diagnostic.render ++ "\n")).written = _
    simp only [Console.write, hcapacity, List.take_append, List.take_of_length_le h.length_le]
  exact ⟨hcapacity, hwritten ▸ h.report r⟩

theorem printer {δ : Type} [Device δ] (hlimited : Device.Limited δ limit) {p : Printer δ}
    (h : c.KeptBy limit p.errors (Device.kept p.device)) (r : Report) :
    (Reporter.report c r).KeptBy limit (Reporter.report p r).errors
      (Device.kept (Reporter.report p r).device) := by
  have hkept : Device.kept (Reporter.report p r).device = (Device.kept p.device ++
      (r.diagnostic.render ++ "\n").toUTF8.data.toList).take limit := by
    rw [← Diagnostic.join_parts]
    exact hlimited.kept_writeParts h.length_le _
  exact hkept ▸ h.report r

end Collected.KeptBy

theorem diagnostics_collected (c : Collected) (reports : List Report) :
    (reports.foldl Reporter.report c).diagnostics =
      c.diagnostics ++ reports.map Report.diagnostic := by
  induction reports generalizing c with
  | nil => exact (List.append_nil _).symm
  | cons r reports ih =>
    rw [List.foldl_cons, ih, List.map_cons, List.append_cons]
    rfl

/-- **Reporting survives a device that fills up.** After any reports, a console has counted them
all, as many as a collecting reporter holds, and of the lines of the collected diagnostics it has
kept the first bytes, as many as there is room for. So does a console that writes in parts to any
device that takes `limit` bytes and then fails. -/
theorem console_keeps_first_bytes (limit : Nat) (reports : List Report) :
    let collected := reports.foldl Reporter.report ({} : Collected)
    let lines := String.join (collected.diagnostics.map fun d => d.render ++ "\n")
    let bytes := lines.toUTF8.data.toList
    let first := bytes.take (min limit bytes.length)
    let console := reports.foldl Reporter.report ({ capacity := some limit } : Console)
    collected.diagnostics = reports.map Report.diagnostic ∧
      console.errors = reports.length ∧ console.errors = collected.diagnostics.length ∧
      console.written = first ∧
      ∀ {δ : Type} [Device δ] (d : δ), Device.Limited δ limit → Device.kept d = [] →
        let printer := reports.foldl Reporter.report (Printer.mk 0 d)
        printer.errors = reports.length ∧ printer.errors = collected.diagnostics.length ∧
          Device.kept printer.device = first := by
  intro collected lines bytes first console
  have hdiagnostics : collected.diagnostics = reports.map Report.diagnostic :=
    diagnostics_collected {} reports
  have hlength : collected.diagnostics.length = reports.length := by
    rw [hdiagnostics, List.length_map]
  have hfirst : bytes.take limit = first := List.take_eq_take_min
  have hconsole : console.capacity = some limit ∧
      collected.KeptBy limit console.errors console.written :=
    List.foldl_rel (r := fun (console : Console) (collected : Collected) =>
        console.capacity = some limit ∧ collected.KeptBy limit console.errors console.written)
      ⟨rfl, .init limit⟩ fun r _ _ _ h => h.2.console h.1 r
  refine ⟨hdiagnostics, hconsole.2.errors.trans hlength, hconsole.2.errors,
    hconsole.2.kept.trans hfirst, ?_⟩
  intro δ _ d hlimited hempty printer
  have hprinter : collected.KeptBy limit printer.errors (Device.kept printer.device) :=
    List.foldl_rel
      (r := fun (printer : Printer δ) (collected : Collected) =>
        collected.KeptBy limit printer.errors (Device.kept printer.device))
      (hempty ▸ .init limit) fun r _ _ _ h => h.printer hlimited r
  exact ⟨hprinter.errors.trans hlength, hprinter.errors, hprinter.kept.trans hfirst⟩

/-- A device of `limit` bytes that takes three at a time at most. -/
structure Trickle (limit : Nat) where
  kept : List UInt8 := []

instance (limit : Nat) : Device (Trickle limit) where
  kept d := d.kept
  write d bytes :=
    let n := min 3 (min bytes.length (limit - d.kept.length))
    if n = 0 then (none, d) else (some n, ⟨d.kept ++ bytes.take n⟩)

theorem limited_trickle (limit : Nat) : Device.Limited (Trickle limit) limit where
  takes d bytes hbytes hroom := by
    have hkept : (Device.kept d).length = d.kept.length := rfl
    have hpos := List.length_pos_iff.2 hbytes
    obtain ⟨n, hn⟩ : ∃ n, min 3 (min bytes.length (limit - d.kept.length)) = n + 1 :=
      Nat.exists_eq_add_one.2 (by omega)
    refine ⟨n, ⟨d.kept ++ bytes.take (n + 1)⟩, ?_, by omega, by omega, rfl⟩
    simp only [Device.write, hn, Nat.succ_ne_zero, if_false]
  refuses d bytes _ hfull := by
    have hkept : (Device.kept d).length = d.kept.length := rfl
    have hnone : min 3 (min bytes.length (limit - d.kept.length)) = 0 := by omega
    have hwrite : Device.write d bytes = (none, d) := if_pos hnone
    rw [hwrite]
    exact ⟨.inl rfl, rfl⟩

/-- The eighth byte is the first of the two that `é` is written in. Nothing of the second line is
kept, and it is counted. -/
theorem console_keeps_first_bytes_cut :
    let report : Report := ⟨"%", "é", .point .origin⟩
    let printer := [report, report].foldl Reporter.report (Printer.mk 0 ({} : Trickle 8))
    Device.Limited (Trickle 8) 8 ∧ Device.kept ({} : Trickle 8) = [] ∧
      printer.errors = 2 ∧ Device.kept printer.device = [69, 82, 82, 79, 82, 58, 32, 195] := by
  intro report printer
  obtain ⟨-, -, -, -, hdevice⟩ := console_keeps_first_bytes 8 [report, report]
  obtain ⟨herrors, -, hkept⟩ := hdevice ({} : Trickle 8) (limited_trickle 8) rfl
  exact ⟨limited_trickle 8, rfl, herrors, hkept.trans (by cbv)⟩

end MiniC
