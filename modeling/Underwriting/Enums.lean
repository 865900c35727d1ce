/-! # Domain enums

The string enums of `app/enums.py`. The columns that hold them store `value`.
-/

namespace Underwriting

/-- Lines of business; the starter line is `commercialProperty`. -/
inductive LineOfBusiness where
  | commercialProperty | marine | engineering | financialLines
  deriving DecidableEq, Repr

def LineOfBusiness.value : LineOfBusiness → String
  | .commercialProperty => "commercial_property"
  | .marine => "marine"
  | .engineering => "engineering"
  | .financialLines => "financial_lines"

/-- Occupancy of the insured risk. -/
inductive Occupancy where
  | office | retail | warehouse | lightManufacturing | fireworksManufacturing
  deriving DecidableEq, Repr

def Occupancy.value : Occupancy → String
  | .office => "office"
  | .retail => "retail"
  | .warehouse => "warehouse"
  | .lightManufacturing => "light_manufacturing"
  | .fireworksManufacturing => "fireworks_manufacturing"

/-- Outcome of an appetite assessment. -/
inductive Outcome where
  | accept | refer | decline
  deriving DecidableEq, Repr

def Outcome.value : Outcome → String
  | .accept => "accept"
  | .refer => "refer"
  | .decline => "decline"

/-- Reason codes of the appetite engine. -/
inductive ReasonCode where
  | lobOutOfAppetite | tivAboveAuthority | excludedOccupancy | sanctionedCountry | withinAppetite
  deriving DecidableEq, Repr

def ReasonCode.value : ReasonCode → String
  | .lobOutOfAppetite => "LOB_OUT_OF_APPETITE"
  | .tivAboveAuthority => "TIV_ABOVE_AUTHORITY"
  | .excludedOccupancy => "EXCLUDED_OCCUPANCY"
  | .sanctionedCountry => "SANCTIONED_COUNTRY"
  | .withinAppetite => "WITHIN_APPETITE"

end Underwriting
