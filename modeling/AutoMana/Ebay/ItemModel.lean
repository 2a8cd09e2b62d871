import AutoMana.Xml

/-!
# ItemModel

The fields of a listing, with the aliases under which a dictionary may have them too, and how
pydantic validates a parsed element and dumps it again. `None` is left out of a dump.
-/

namespace AutoMana.Ebay.ItemXml

open Relational Xml

/-! ## Types of fields -/

mutual

/-- The type of a field. -/
inductive Ty where
  | str
  | bool
  | int
  | float
  | uuid
  | dict
  /-- `BaseCostType` -/
  | cost
  | list (item : Ty)
  /-- `List[T] | T` -/
  | listOrOne (item : Ty)
  /-- A model, and whether it keeps extra fields. -/
  | model (allowsExtra : Bool) (fields : Fields)

/-- The fields of a model, with their aliases, and which of them are required. -/
inductive Fields where
  | nil
  | cons (name camel : String) (required : Bool) (ty : Ty) (rest : Fields)

end

/-- Optional fields, with their aliases. -/
def optional (entries : List (String × String × Ty)) : Fields :=
  entries.foldr (fun entry rest => .cons entry.1 entry.2.1 false entry.2.2 rest) .nil

def Fields.names : Fields → List String
  | .nil => []
  | .cons name _ _ _ rest => name :: rest.names

/-! ## The models -/

def buyerProtectionDetailsType : Ty := .model false .nil

def bestOfferDetailsType : Ty := .model true (optional [
    ("BestOfferEnabled", "bestOfferEnabled", .bool), ("BestOfferCount", "bestOfferCount", .int),
    ("BestOfferStatus", "bestOfferStatus", .str), ("BestOfferType", "bestOfferType", .str),
    ("NewBestOffer", "newBestOffer", .bool)])

def biddingDetailsType : Ty := .model true (optional [
    ("ConvertedMaxBid", "convertedMaxBid", .float), ("MaxBid", "maxBid", .float),
    ("QuantityBid", "quantityBid", .int), ("QuantityWon", "quantityWon", .int),
    ("Winning", "winning", .bool)])

def businessSellerDetailsType : Ty := .model true (optional [
    ("Email", "email", .str), ("Fax", "fax", .str), ("LegalInvoice", "legalInvoice", .bool),
    ("TermsAndConditions", "termsAndConditions", .str),
    ("TradeRegistrationNumber", "tradeRegistrationNumber", .str),
    ("VATPercentage", "vatPercentage", .float)])

def buyerRequirementDetailsType : Ty := .model true (optional [
    ("ShipToRegistrationCountry", "shipToRegistrationCountry", .bool),
    ("MaximumUnpaidItemStrikesInfo", "maximumUnpaidItemStrikesInfo", .dict),
    ("MaximumBuyerPolicyViolations", "maximumBuyerPolicyViolations", .dict),
    ("MinimumFeedbackScore", "minimumFeedbackScore", .int),
    ("LinkedPayPalAccount", "linkedPayPalAccount", .bool),
    ("VerifiedUserRequirements", "verifiedUserRequirements", .dict),
    ("MaximumItemRequirements", "maximumItemRequirements", .dict)])

def charityType : Ty := .model true (optional [
    ("CharityID", "charityId", .str), ("CharityName", "charityName", .str),
    ("DonationPercent", "donationPercent", .float)])

def conditionDescriptorsType : Ty := .model true (optional [
    ("ConditionDescriptors", "conditionDescriptors", .list .str)])

def customPoliciesType : Ty := .model true (optional [("PolicyID", "policyId", .str)])

def digitalGoodInfoType : Ty := .model true (optional [("DownloadURL", "downloadUrl", .str)])

def discountPriceInfoType : Ty := .model true (optional [
    ("OriginalRetailPrice", "originalRetailPrice", .cost),
    ("PricingTreatment", "pricingTreatment", .str)])

def extendedProducerResponsibilityType : Ty := .model true (optional [
    ("ProducerUserID", "producerUserId", .str), ("ProductPackageID", "productPackageId", .str)])

def extendedContactDetailsType : Ty := .model true (optional [
    ("Name", "name", .str), ("Street", "street", .str), ("City", "city", .str),
    ("Country", "country", .str), ("Phone", "phone", .str)])

def itemCompatibilityListType : Ty := .model true (optional [
    ("CompatibilityDetails", "compatibilityDetails", .list .dict)])

def itemPolicyViolationType : Ty := .model true (optional [
    ("PolicyID", "policyId", .str), ("PolicyText", "policyText", .str)])

def listingDetailsType : Ty := .model true (optional [
    ("StartTime", "startTime", .str), ("EndTime", "endTime", .str),
    ("ViewItemURL", "viewItemUrl", .str), ("ConvertedStartPrice", "convertedStartPrice", .cost),
    ("ConvertedReservePrice", "convertedReservePrice", .cost),
    ("ConvertedBuyItNowPrice", "convertedBuyItNowPrice", .cost),
    ("MinimumBestOfferPrice", "minimumBestOfferPrice", .cost),
    ("ViewItemURLForNaturalSearch", "viewItemUrlForNaturalSearch", .str)])

def paymentDetailsType : Ty := .model true (optional [
    ("HoursToDeposit", "hoursToDeposit", .int), ("DaysToFullPayment", "daysToFullPayment", .int),
    ("DepositAmount", "depositAmount", .float), ("DepositType", "depositType", .str),
    ("FullPaymentDueIn", "fullPaymentDueIn", .str), ("PaymentMethod", "paymentMethod", .str)])

def pickupInStoreDetailsType : Ty := .model true (optional [
    ("EligibleForPickupInStore", "eligibleForPickupInStore", .bool)])

def categoryType : Ty := .model true (.cons "CategoryID" "categoryId" true .str
    (optional [("CategoryName", "categoryName", .str)]))

def productListingDetailsType : Ty := .model true (optional [
    ("UPC", "upc", .str), ("ISBN", "isbn", .str), ("EAN", "ean", .str)])

def quantityRestrictionPerBuyerInfoType : Ty :=
  .model true (optional [("MaximumQuantity", "maximumQuantity", .int)])

def regulatoryType : Ty := .model true (optional [
    ("Pictograms", "pictograms", .list .str), ("SafetyDataSheetURL", "safetyDataSheetUrl", .str)])

def returnPolicyType : Ty := .model true (optional [
    ("Description", "description", .str),
    ("InternationalRefundOption", "internationalRefundOption", .str),
    ("InternationalReturnsAcceptedOption", "internationalReturnsAcceptedOption", .str),
    ("InternationalReturnsWithinOption", "internationalReturnsWithinOption", .str),
    ("InternationalShippingCostPaidByOption", "internationalShippingCostPaidByOption", .str),
    ("RefundOption", "refundOption", .str),
    ("ReturnsAcceptedOption", "returnsAcceptedOption", .str),
    ("ReturnsWithinOption", "returnsWithinOption", .str),
    ("ShippingCostPaidByOption", "shippingCostPaidByOption", .str)])

def reviseStatusType : Ty := .model true (optional [
    ("ItemRevised", "itemRevised", .bool), ("BuyItNowAdded", "buyItNowAdded", .bool)])

def sellerInfoType : Ty := .model true (optional [
    ("AllowPaymentEdit", "allowPaymentEdit", .bool), ("CheckoutEnabled", "checkoutEnabled", .bool),
    ("CIPBankAccountStored", "cipBankAccountStored", .bool),
    ("GoodStanding", "goodStanding", .bool),
    ("LiveAuctionAuthorized", "liveAuctionAuthorized", .bool),
    ("MerchandizingPref", "merchandizingPref", .str),
    ("QualifiesForB2BVAT", "qualifiesForB2BVAT", .bool), ("StoreOwner", "storeOwner", .bool),
    ("SafePaymentExempt", "safePaymentExempt", .bool), ("TopRatedSeller", "topRatedSeller", .bool)])

def userType : Ty := .model true (optional [
    ("AboutMePage", "aboutMePage", .bool), ("Email", "email", .str),
    ("FeedbackScore", "feedbackScore", .int),
    ("PositiveFeedbackPercent", "positiveFeedbackPercent", .float),
    ("FeedbackPrivate", "feedbackPrivate", .bool), ("IDVerified", "idVerified", .bool),
    ("eBayGoodStanding", "eBayGoodStanding", .bool), ("NewUser", "newUser", .bool),
    ("RegistrationDate", "registrationDate", .str), ("Site", "site", .str),
    ("Status", "status", .str), ("UserID", "userID", .str),
    ("UserIDChanged", "userIDChanged", .bool), ("VATStatus", "vatStatus", .str),
    ("SellerInfo", "sellerInfo", sellerInfoType), ("MotorsDealer", "motorsDealer", .bool)])

def addressType : Ty := .model true (optional [
    ("addressLine1", "addressLine1", .str), ("addressLine2", "addressLine2", .str),
    ("city", "city", .str), ("stateOrProvince", "stateOrProvince", .str),
    ("postalCode", "postalCode", .str), ("countryCode", "countryCode", .str)])

def sellerProfilesType : Ty := .model true (optional [
    ("SellerShippingProfileID", "sellerShippingProfileId", .int),
    ("SellerReturnProfileID", "sellerReturnProfileId", .int),
    ("SellerPaymentProfileID", "sellerPaymentProfileId", .int)])

def sellingStatusType : Ty := .model true (optional [
    ("CurrentPrice", "currentPrice", .cost), ("QuantitySold", "quantitySold", .int),
    ("ListingStatus", "listingStatus", .str)])

def shippingServiceOptionType : Ty := .model true (optional [
    ("ShippingService", "shippingService", .str),
    ("ShippingServiceCost", "shippingServiceCost", .cost),
    ("ShippingServicePriority", "shippingServicePriority", .int),
    ("ExpeditedService", "expeditedService", .bool), ("ShippingTimeMin", "shippingTimeMin", .int),
    ("ShippingTimeMax", "shippingTimeMax", .int)])

def shippingDetailsType : Ty := .model true (optional [
    ("ShippingType", "shippingType", .str),
    ("ShippingServiceOptions", "shippingServiceOptions", .listOrOne shippingServiceOptionType),
    ("InternationalShippingServiceOption", "internationalShippingServiceOption", .list .dict),
    ("SalesTax", "salesTax", .dict), ("ShippingServiceUsed", "shippingServiceUsed", .str),
    ("PaymentInstructions", "paymentInstructions", .str),
    ("ShippingDiscountProfileID", "shippingDiscountProfileId", .str)])

def shippingServiceCostOverrideListType : Ty :=
  .model true (optional [("CostOverrideList", "costOverrideList", .list .dict)])

def storefrontType : Ty := .model true (optional [
    ("StoreCategoryID", "storeCategoryId", .int), ("StoreURL", "storeUrl", .str)])

def unitInfoType : Ty := .model true (optional [
    ("UnitType", "unitType", .str), ("UnitQuantity", "unitQuantity", .float)])

def variationsType : Ty := .model true (optional [("VariationList", "variationList", .list .dict)])

def vATDetailsType : Ty := .model true (optional [
    ("VATPercent", "vatPercent", .float), ("VATSite", "vatSite", .str), ("VATID", "vatId", .str)])

def videoDetailsType : Ty :=
  .model true (optional [("VideoURL", "videoUrl", .str), ("VideoID", "videoId", .str)])

/-- The fields of `ItemModel`. -/
def itemFields : Fields := optional [
    ("Title", "title", .str), ("Description", "description", .str),
    ("ApplicationData", "applicationData", .str),
    ("ApplyBuyerProtection", "applyBuyerProtection", buyerProtectionDetailsType),
    ("AutoPay", "autoPay", .bool),
    ("AvailableForPickupDropOff", "availableForPickupDropOff", .bool),
    ("BestOfferDetails", "bestOfferDetails", bestOfferDetailsType),
    ("BiddingDetails", "biddingDetails", biddingDetailsType),
    ("BusinessSellerDetails", "businessSellerDetails", businessSellerDetailsType),
    ("BuyerGuaranteePrice", "buyerGuaranteePrice", .cost),
    ("BuyerProtection", "buyerProtection", .str),
    ("BuyerRequirementDetails", "buyerRequirementDetails", buyerRequirementDetailsType),
    ("BuyerResponsibleForShipping", "buyerResponsibleForShipping", .bool),
    ("BuyItNowPrice", "buyItNowPrice", .cost),
    ("CategoryMappingAllowed", "categoryMappingAllowed", .bool),
    ("CeilingPrice", "ceilingPrice", .cost), ("Charity", "charity", charityType),
    ("ClassifiedAdPayPerLeadFee", "classifiedAdPayPerLeadFee", .cost),
    ("ConditionDefinition", "conditionDefinition", .str),
    ("ConditionDescription", "conditionDescription", .str),
    ("ConditionDescriptors", "conditionDescriptors", conditionDescriptorsType),
    ("ConditionDisplayName", "conditionDisplayName", .str), ("ConditionID", "conditionID", .int),
    ("Country", "country", .str), ("CrossBorderTrade", "crossBorderTrade", .str),
    ("Currency", "currency", .str), ("CustomPolicies", "customPolicies", customPoliciesType),
    ("DescriptionReviseMode", "descriptionReviseMode", .str),
    ("DigitalGoodInfo", "digitalGoodInfo", digitalGoodInfoType),
    ("DisableBuyerRequirements", "disableBuyerRequirements", .bool),
    ("DiscountPriceInfo", "discountPriceInfo", discountPriceInfoType),
    ("DispatchTimeMax", "dispatchTimeMax", .int), ("eBayNotes", "eBayNotes", .str),
    ("eBayPlus", "eBayPlus", .bool), ("eBayPlusEligible", "eBayPlusEligible", .bool),
    ("EligibleForPickupDropOff", "eligibleForPickupDropOff", .bool),
    ("eMailDeliveryAvailable", "eMailDeliveryAvailable", .bool),
    ("ExtendedProducerResponsibility", "extendedProducerResponsibility",
      extendedProducerResponsibilityType),
    ("ExtendedSellerContactDetails", "extendedSellerContactDetails", extendedContactDetailsType),
    ("FloorPrice", "floorPrice", .cost), ("FreeAddedCategory", "freeAddedCategory", .str),
    ("GetItFast", "getItFast", .bool), ("HasUnansweredQuestions", "hasUnansweredQuestions", .bool),
    ("HasPublicMessages", "hasPublicMessages", .bool), ("HideFromSearch", "hideFromSearch", .bool),
    ("HitCount", "hitCount", .int), ("IgnoreQuantity", "ignoreQuantity", .bool),
    ("IntegratedMerchantCreditCardEnabled", "integratedMerchantCreditCardEnabled", .bool),
    ("InventoryTrackingMethod", "inventoryTrackingMethod", .str),
    ("IsIntermediatedShippingEligible", "isIntermediatedShippingEligible", .bool),
    ("IsItemEMSEligible", "isItemEMSEligible", .bool),
    ("IsSecureDescription", "isSecureDescription", .bool),
    ("ItemCompatibilityCount", "itemCompatibilityCount", .int),
    ("ItemCompatibilityList", "itemCompatibilityList", itemCompatibilityListType),
    ("ItemID", "itemID", .str),
    ("ItemPolicyViolation", "itemPolicyViolation", itemPolicyViolationType),
    ("ItemSpecifics", "itemSpecifics", .dict), ("LeadCount", "leadCount", .int),
    ("ListingDetails", "listingDetails", listingDetailsType),
    ("ListingDuration", "listingDuration", .str),
    ("ListingEnhancement", "listingEnhancement", .str),
    ("ListingSubtype2", "listingSubtype2", .str), ("ListingType", "listingType", .str),
    ("Location", "location", .str), ("LocationDefaulted", "locationDefaulted", .bool),
    ("LotSize", "lotSize", .int), ("MechanicalCheckAccepted", "mechanicalCheckAccepted", .bool),
    ("NewLeadCount", "newLeadCount", .int), ("PaymentAllowedSite", "paymentAllowedSite", .str),
    ("PaymentDetails", "paymentDetails", paymentDetailsType),
    ("PaymentMethods", "paymentMethods", .list .str),
    ("PayPalEmailAddress", "payPalEmailAddress", .str),
    ("PickupInStoreDetails", "pickupInStoreDetails", pickupInStoreDetailsType),
    ("PictureDetails", "pictureDetails", .dict), ("PostalCode", "postalCode", .str),
    ("PrimaryCategory", "primaryCategory", categoryType),
    ("PrivateListing", "privateListing", .bool), ("PrivateNotes", "privateNotes", .str),
    ("ProductListingDetails", "productListingDetails", productListingDetailsType),
    ("ProxyItem", "proxyItem", .bool), ("Quantity", "quantity", .int),
    ("QuantityAvailable", "quantityAvailable", .int),
    ("QuantityAvailableHint", "quantityAvailableHint", .str),
    ("QuantityRestrictionPerBuyer", "quantityRestrictionPerBuyer",
      quantityRestrictionPerBuyerInfoType),
    ("QuantityThreshold", "quantityThreshold", .int), ("QuestionCount", "questionCount", .int),
    ("ReasonHideFromSearch", "reasonHideFromSearch", .str),
    ("Regulatory", "regulatory", regulatoryType), ("Relisted", "relisted", .bool),
    ("RelistLink", "relistLink", .bool), ("RelistParentID", "relistParentID", .int),
    ("ReservePrice", "reservePrice", .cost), ("ReturnPolicy", "returnPolicy", returnPolicyType),
    ("ReviseStatus", "reviseStatus", reviseStatusType), ("ScheduleTime", "scheduleTime", .str),
    ("SecondaryCategory", "secondaryCategory", categoryType), ("Seller", "seller", userType),
    ("SellerContactDetails", "sellerContactDetails", addressType),
    ("SellerProfiles", "sellerProfiles", sellerProfilesType),
    ("SellerProvidedTitle", "sellerProvidedTitle", .str),
    ("SellerVacationNote", "sellerVacationNote", .str),
    ("SellingStatus", "sellingStatus", sellingStatusType),
    ("ShippingDetails", "shippingDetails", shippingDetailsType),
    ("ShippingServiceCostOverrideList", "shippingServiceCostOverrideList",
      shippingServiceCostOverrideListType),
    ("ShipToLocations", "shipToLocations", .str), ("Site", "site", .str), ("SKU", "sku", .str),
    ("StartPrice", "startPrice", .cost), ("Storefront", "storefront", storefrontType),
    ("SubTitle", "subTitle", .str), ("TaxCategory", "taxCategory", .str),
    ("TimeLeft", "timeLeft", .str), ("TopRatedListing", "topRatedListing", .bool),
    ("TotalQuestionCount", "totalQuestionCount", .int), ("UnitInfo", "unitInfo", unitInfoType),
    ("UseTaxTable", "useTaxTable", .bool), ("UUID", "uuid", .str),
    ("Variations", "variations", variationsType), ("VATDetails", "vatDetails", vATDetailsType),
    ("VideoDetails", "videoDetails", videoDetailsType), ("VIN", "vin", .str),
    ("VINLink", "vinLink", .str), ("VRM", "vrm", .str), ("VRMLink", "vrmLink", .str),
    ("WatchCount", "watchCount", .int), ("CatalogFinish", "catalogFinish", .str),
    ("CatalogCondition", "catalogCondition", .str), ("CardVersionId", "cardVersionId", .uuid)]

/-- `ItemModel` -/
def itemModel : Ty := .model true itemFields

/-! ## Validation -/

/-- What pydantic reads a text as: a number, a boolean, a UUID. A float and a UUID are the texts
that `str` prints of them. -/
structure Scalars where
  int : String → Option Int
  bool : String → Option Bool
  float : String → Option String
  uuid : String → Option String

/-- A field that may be missing, or `None`. -/
def validateField (required : Bool) (validate : Json → Option Json) : Option Json → Option Json
  | none => if required then none else some .null
  | some .null => if required then none else some .null
  | some value => validate value

/-- The value of a field in a dictionary, by its alias or its name. -/
def fieldValue (name camel : String) (rows : List (String × Json)) : Option Json :=
  (rows.lookup camel).or (rows.lookup name)

/-- The keys by which the fields are found. -/
def Fields.keys (rows : List (String × Json)) : Fields → List String
  | .nil => []
  | .cons name camel _ _ rest =>
    (if (rows.lookup camel).isSome then camel else name) :: rest.keys rows

/-- The entries of the dictionary that are no fields. -/
def Fields.extras (fields : Fields) (rows : List (String × Json)) : List (String × Json) :=
  rows.filter fun entry => ¬ (fields.keys rows).contains entry.1

/-- `exclude_none` -/
def present (values : List (String × Json)) : List (String × Json) :=
  values.filter fun entry => match entry.2 with
    | .null => false
    | _ => true

def withExtras (allowsExtra : Bool) (fields : Fields) (rows values : List (String × Json)) :
    List (String × Json) :=
  values ++ if allowsExtra then fields.extras rows else []

/-- The fields of `BaseCostType`. -/
def costFields : Fields := optional [("currencyID", "currency", .str), ("text", "value", .str)]

/-- A cost is dumped under the aliases of its fields. -/
def validateCost (rows : List (String × Json)) : Option (List (String × Json)) := do
  let text : Json → Option Json := fun value => value.str?.map .str
  let currency ← validateField false text (fieldValue "currencyID" "currency" rows)
  let value ← validateField false text (fieldValue "text" "value" rows)
  return withExtras true costFields rows [("currency", currency), ("value", value)]

mutual

/-- The dump of a value that was validated; `none` when it is no value of the type. Of the
scalars only texts occur, for an element has no others. -/
def validate (scalars : Scalars) : Ty → Json → Option Json
  | .str, value => value.str?.map .str
  | .bool, value => (value.str?.bind scalars.bool).map .bool
  | .int, value => (value.str?.bind scalars.int).map (.number · 0)
  | .float, value => (value.str?.bind scalars.float).map .str
  | .uuid, value => (value.str?.bind scalars.uuid).map .str
  | .dict, value => value.dict?.map .dict
  | .cost, value => (value.dict?.bind validateCost).map (.dict <| present ·)
  | .list item, value =>
    (value.list?.bind fun items => items.mapM (validate scalars item)).map .list
  | .listOrOne item, value =>
    match value.list? with
    | some items => (items.mapM (validate scalars item)).map .list
    | none => validate scalars item value
  | .model allowsExtra fields, value => do
    let rows ← value.dict?
    let values ← validateFields scalars fields rows
    return .dict (present (withExtras allowsExtra fields rows values))

/-- The fields of a model, in their order. -/
def validateFields (scalars : Scalars) : Fields → List (String × Json) →
    Option (List (String × Json))
  | .nil, _ => some []
  | .cons name camel required ty rest, rows => do
    let value ← validateField required (validate scalars ty) (fieldValue name camel rows)
    let values ← validateFields scalars rest rows
    return (name, value) :: values

end

/-- `ItemModel.model_validate`, whose fields are the entries. -/
def modelValidate (scalars : Scalars) (value : Json) : Option (List (String × Json)) := do
  let rows ← value.dict?
  let values ← validateFields scalars itemFields rows
  return withExtras true itemFields rows values

end AutoMana.Ebay.ItemXml
