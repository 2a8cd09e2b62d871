import AutoMana.Ai.AgentChat
import AutoMana.Auth.LiveTokens
import AutoMana.Auth.PasswordResets
import AutoMana.Auth.Roles
import AutoMana.CardCatalog.Identity
import AutoMana.CardCatalog.ParentSets
import AutoMana.CardCatalog.Resume
import AutoMana.CardCatalog.SearchCache
import AutoMana.CardCatalog.SetAccounting
import AutoMana.Collections.Deleted
import AutoMana.Collections.EntryPages
import AutoMana.Collections.Isolation
import AutoMana.Content.Articles
import AutoMana.Ebay.AppScopes
import AutoMana.Ebay.CachedReads
import AutoMana.Ebay.CreateListing
import AutoMana.Ebay.Environments
import AutoMana.Ebay.IdempotentReplies
import AutoMana.Ebay.ListedSales
import AutoMana.Ebay.ListingActions
import AutoMana.Ebay.ListingDescription
import AutoMana.Ebay.ListingPages
import AutoMana.Ebay.ListingRoundTrip
import AutoMana.Ebay.ListingTitles
import AutoMana.Ebay.LocalSales
import AutoMana.Ebay.OAuthFlow
import AutoMana.Ebay.PriceTrend
import AutoMana.Ebay.SalesStored
import AutoMana.Ebay.SoldCurrency
import AutoMana.Ebay.SoldHistory
import AutoMana.Ebay.StatusKept
import AutoMana.Ebay.TokenRotation
import AutoMana.Framework.RateLimits
import AutoMana.Framework.ServiceConnections
import AutoMana.MtgStock.Discovery
import AutoMana.MtgStock.IdentifierBatches
import AutoMana.MtgStock.LastPrint
import AutoMana.MtgStock.PriceFiles
import AutoMana.Mtgjson.StagingOrder
import AutoMana.Mtgjson.UuidMap
import AutoMana.OpenTcg.MissingPrices
import AutoMana.Ops.FailureRecords
import AutoMana.Ops.HealthAlerts
import AutoMana.Ops.RequestMetrics
import AutoMana.Ops.RunExclusion
import AutoMana.PriceCharting.Matching
import AutoMana.PriceCharting.SalesKept
import AutoMana.PriceCharting.Scrape
import AutoMana.PriceCharting.SetMatching
import AutoMana.Pricing.ArchiveHistory
import AutoMana.Pricing.Attribution
import AutoMana.Pricing.BookedPrices
import AutoMana.Pricing.DailyWatermark
import AutoMana.Pricing.LateObservations
import AutoMana.Pricing.LinkedCards
import AutoMana.Pricing.OwnPrices
import AutoMana.Pricing.WeeklyHistory
import AutoMana.Queries.Accounts
import AutoMana.Queries.SearchPages
import AutoMana.Relational.Markup
import AutoMana.Relational.Percent
import AutoMana.Scryfall.BulkManifest
import AutoMana.Scryfall.DailyRuns
import AutoMana.Sealed.Cleanup
import AutoMana.Sealed.Currency
import AutoMana.Sealed.EndToEnd
import AutoMana.Sealed.Mirror
import AutoMana.Sealed.StreamBatches
import AutoMana.Shopify.InStock
import AutoMana.Shopify.Parquet
import AutoMana.Shopify.PricesKept
import AutoMana.Staging.BatchAudit
import AutoMana.Staging.Finishes
import AutoMana.Staging.LearntPrints
import AutoMana.Staging.MarketCycles
import AutoMana.Staging.NewestPrice
import AutoMana.Staging.TerminalReasons
import AutoMana.Storage.XzStream
import AutoMana.Worker.IncrementalLoad
import AutoMana.Worker.StalePurge
