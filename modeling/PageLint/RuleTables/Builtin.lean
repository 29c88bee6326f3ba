import PageLint.RuleTables.Basic

/-!
# Built-in rule tables

The tables of the Pune bus network, which are used where a configuration gives none. They describe
data, not rules: another city replaces them in its own configuration.

* `RuleTables.builtin`: all built-in tables.
* `DataTables.builtin`: those about the data directory.
-/

namespace PageLint

namespace RuleTables.Builtin

/-- The share of the fleet that is in use. -/
def utilizationColumn : String := "% of Fleet Utilization(PMPML+PPP)"

/-- Schedules that are planned. -/
def sanctionedColumn : String := "No.of Schedules Sanctioned Per Day (PMPML + PPP)"

/-- Schedules that were run. -/
def operatedColumn : String := "Average No.of Schedule operated Per Day (PMPML+PPP)"

/-- All earnings. -/
def earningColumn : String := "All Traffic Earning (₹)"

/-- The gaps that the depot reports leave. -/
def gaps : List Gap.Interval :=
  let fourthQuarter := "Reports not retrieved for Q4 FY2023-24"
  let partialYear := "Reports not retrieved for partial FY2024-25"
  let batch := "Reports not retrieved; PMPML publishes quarterly batches"
  [⟨"extracted", "Jan 2024", "Mar 2024", fourthQuarter⟩,
   ⟨"extracted", "Nov 2024", "Mar 2025", partialYear⟩,
   ⟨"extracted", "Jul 2025", "Sep 2025", batch⟩,
   ⟨"brt_extracted", "Jan 2023", "Jan 2023", "BRT Jan 2023 report not retrieved"⟩,
   ⟨"brt_extracted", "Jan 2024", "Mar 2024", fourthQuarter⟩,
   ⟨"brt_extracted", "Nov 2024", "Mar 2025", partialYear⟩,
   ⟨"brt_extracted", "Jul 2025", "Sep 2025", batch⟩,
   ⟨"ebus_extracted", "Jan 2024", "Mar 2024", fourthQuarter⟩,
   ⟨"ebus_extracted", "Nov 2024", "Mar 2025", partialYear⟩,
   ⟨"ebus_extracted", "Jul 2025", "Sep 2025", batch⟩]

/-- The deviations in the depot reports that have been looked into. -/
def knownIssues : List KnownIssue :=
  [⟨"extracted.csv", "Dec 2023", "Pune Station", utilizationColumn,
    "Source report shows 200%: formula quirk when hired fleet exceeds own schedule count. Capped with LEAST(..., 100.0)."⟩,
   ⟨"extracted.csv", "Dec 2023", "Nigadi", utilizationColumn,
    "Source report shows 116.67%, same quirk as Pune Station. Capped in SQL."⟩,
   ⟨"extracted.csv", "Feb 2023", "*", earningColumn,
    "Column shift in the original extraction; imputed as ticket + pass + student earnings."⟩,
   ⟨"extracted.csv", "Apr 2023", "*", "Earning per KMs in Rs.(EPK) (₹)",
    "All-traffic EPK printed in the ticket-only column; imputed from ticket earning / effective km."⟩,
   ⟨"extracted.csv", "*", "*", "Total Gross KMs (Diesel+CNG+E)",
    "Records only own diesel gross km for many depots from Feb 2023; not used in any chart."⟩,
   ⟨"ebus_extracted.csv", "Dec 2023", "Hadapsar", "passengers_per_day",
    "Monthly total entered as a daily average; imputed from earnings and earlier per-passenger yield."⟩,
   ⟨"extracted.csv", "Jan 2023", "*", sanctionedColumn,
    "Sanctioned and Operated swapped for 8 depots; queries rebuild them with GREATEST/LEAST."⟩,
   ⟨"extracted.csv", "Mar 2023", "*", sanctionedColumn,
    "Same Sanctioned/Operated swap as Jan 2023; queries rebuild them with GREATEST/LEAST."⟩,
   ⟨"extracted.csv", "Oct 2023", "Nigadi", "Gross KMs- Diesel (Own)",
    "104,315 km for 9 own buses; hire fleet km likely entered in the own-bus column."⟩,
   ⟨"extracted.csv", "Nov 2023", "Nigadi", "Gross KMs- Diesel (Own)",
    "81,248 km for 5 own buses; same entry error as Oct 2023."⟩]

/-- The marker lines of the electric fleet and of estimated diesel figures. -/
def markers : List Marker :=
  [{ rule := "REFERENCELINE_EBUS_FLEET"
     x := "2023-10-01"
     pageNameContains := some "ebus"
     chartColumns := ["avg_on_road", "avg_off_road", "fleet_utilization_pct"]
     contentPattern := none
     message := "EBus fleet chart is missing fleet expansion markers. The e-bus fleet stepped up Oct 2023 (458→473), Aug 2024 (473→490), and changed Apr 2025. Add: <ReferenceLine x='2023-10-01' label=\"Fleet: 458→473\" hideValue=true color=base-content-muted/> (and similarly for 2024-08-01 and 2025-04-01)." },
   { rule := "REFERENCELINE_DIESEL_EST"
     x := "2024-04-01"
     pageNameContains := none
     chartColumns := []
     contentPattern := some "(?is)COALESCE\\s*\\(\\s*NULLIF.*?Total Eff;km\\.Diesel"
     message := "Page uses diesel km back-calculation (COALESCE/NULLIF on 'Total Eff;km.Diesel') but has no estimation-boundary marker. From April 2024, diesel km values are estimated from KMPL × consumption. Add: <ReferenceLine x='2024-04-01' label=\"Diesel km estimated\" hideValue=true color=base-content-muted lineType=dashed/>" }]

/-- A monthly table of depots. -/
def monthly (file label : String) (role : TableRole) : EntityTable :=
  { file, label, role
    entityColumn := "Depot"
    periodColumn := some "Date"
    exclude := ["System Total"]
    required := false }

/-- The yearly accounts. -/
def accounts : ReferenceFile :=
  { rule := "DATA_PNL"
    file := "PMPML_Financial_PnL.csv"
    required := true
    hint := some "run /tmp/build_pnl_csv.py to regenerate"
    requiredColumns :=
      ["fiscal_year", "revenue_bus_ops", "employee_benefits", "total_expenses",
       "operating_profit_loss", "total_reimbursements", "net_profit_loss"]
    expect :=
      [{ column := "fiscal_year"
         values :=
           ["2017-18", "2018-19", "2019-20", "2020-21", "2021-22", "2022-23", "2023-24", "2024-25"]
         mode := .all
         severity := .warn
         message := none }]
    rows := some ⟨8, false, some "one per fiscal year 2017-18 to 2024-25"⟩ }

/-- The vehicle registrations. -/
def registrations : ReferenceFile :=
  { rule := "DATA_PVR"
    file := "pune_vehicle_registrations.csv"
    required := true
    hint := some "source: Maharashtra vehicle registrations export (maharashtravehicle registrations.csv)"
    requiredColumns := ["year", "city", "motor_cycles", "cars", "auto_rickshaws"]
    expect :=
      [{ column := "city"
         values := ["Pune", "Pimpri-Chinchwad"]
         mode := .each
         severity := .error
         message := none },
       { column := "year"
         values := ["2000-2001", "2017-2018"]
         mode := .all
         severity := .warn
         message := some "pune_vehicle_registrations.csv should cover 2000-2001 to 2017-2018" }]
    rows := none }

/-- The balance sheet. -/
def balanceSheet : ReferenceFile :=
  { rule := "DATA_BS"
    file := "PMPML_Balance_Sheet.csv"
    required := true
    hint := none
    requiredColumns :=
      ["fy2017_18_lakhs", "fy2018_19_lakhs", "fy2019_20_lakhs", "fy2020_21_lakhs",
       "fy2021_22_lakhs", "fy2022_23_lakhs", "fy2023_24_lakhs", "fy2024_25_lakhs"]
    expect :=
      [{ column := "item"
         values :=
           ["Property Plant & Equipment (Net)", "Other Non-Current Assets", "Inventories",
            "Trade Receivables", "Cash & Cash Equivalents", "Loans & Advances",
            "Other Current Assets", "Short-Term Borrowings", "Other Non-Current Liabilities"]
         mode := .all
         severity := .error
         message := none }]
    rows := some ⟨9, true, none⟩ }

end RuleTables.Builtin

open RuleTables.Builtin

/-- The built-in tables about the data directory. The depot M.Yard served the rapid transit lines
in 2023 and came back as Upper Depot. -/
def DataTables.builtin : DataTables :=
  { entityTables :=
      [monthly "extracted.csv" "extracted" .primary,
       monthly "brt_extracted.csv" "brt_extracted" .secondary,
       monthly "ebus_extracted.csv" "ebus_extracted" .other]
    locations := some ⟨"depot_locations.csv", "depot", ["latitude", "longitude"], false⟩
    allowlistedEntities := ["M.Yard"]
    ranges :=
      [{ rule := "DATA_UTIL_OUTLIER"
         file := "extracted.csv"
         column := utilizationColumn
         label := "fleet utilization"
         unit := "%"
         max := Binary64.ofNat 110
         severity := .warn }]
    aggregates :=
      [{ rule := "DATA_EARNINGS"
         file := "extracted.csv"
         period := "Feb 2023"
         column := earningColumn
         minTotal := Binary64.ofNat 100000000
         expected := "~₹450M"
         severity := .error }]
    references := [accounts, registrations, balanceSheet] }

/-- The built-in tables. -/
def RuleTables.builtin : RuleTables :=
  { primaryTables := ["extracted", "brt_extracted", "ebus_extracted"]
    nullGuard := "Date IS NOT NULL"
    dateAxis := "date_parsed"
    deprecatedNames :=
      [("Bhekrai\nNagar", "Bhekrai Nagar"),
       ("Bhekrainagar", "Bhekrai Nagar"),
       ("P.Station", "Pune Station"),
       ("Pune\nStation", "Pune Station"),
       ("Shewal- wadi", "Shewalwadi"),
       ("Shewal-wadi", "Shewalwadi"),
       ("Uppar Depot", "Upper Depot")]
    knownIssues := Builtin.knownIssues
    gaps := Builtin.gaps
    cappedColumns := [utilizationColumn]
    swappedColumns := [sanctionedColumn, operatedColumn]
    unreliableColumns :=
      [⟨"Total Gross KMs (Diesel+CNG+E)", "Total Dead KMs (Diesel+CNG+E)",
        "it omits hire fleet and has wrong values in Jan 2023"⟩]
    integerYearColumns := ["Year", "census_year", "year_num"]
    formatKeywords :=
      ["revenue", "earning", "crore", "deficit", "profit", "loss", "reimburse", "income",
       "expense", "cost", "utiliz", "pct", "rate", "ratio", "passengers", "ridership", "km",
       "fare", "cumulative", "total_revenue", "avg_fleet"]
    zeroCrossKeywords :=
      ["pl_cr", "net_pl", "operating_pl", "profit_loss", "deficit", "surplus", "net_position",
       "net_profit"]
    markers := Builtin.markers
    citations := [⟨"PMPML_Financial_PnL", "pmpml.org/financial_performance"⟩]
    seriesOrders := [⟨"fuel_type", ["cng", "diesel", "ebus"]⟩]
    data := DataTables.builtin }

end PageLint
