import SeriesQuery.Files
import SeriesQuery.Http.Server
import SeriesQuery.Main
import SeriesQuery.Proofs.Engine.Buckets
import SeriesQuery.Proofs.Filter.Composition
import SeriesQuery.Proofs.Filter.RoundTrip
import SeriesQuery.Proofs.Grid.Words
import SeriesQuery.Proofs.Bucket.Inverse
import SeriesQuery.Proofs.Store.Contents
import SeriesQuery.Proofs.Engine.Outcome
import SeriesQuery.Proofs.Order
import SeriesQuery.Proofs.Plan
import SeriesQuery.Proofs.Engine.Window
import SeriesQuery.Proofs.Engine.Temporality
import SeriesQuery.Proofs.Engine.Shift
import SeriesQuery.Proofs.Engine.Shape
import SeriesQuery.Proofs.Engine.Listings
import SeriesQuery.Proofs.Fixture.Rebasing
import SeriesQuery.Proofs.Http.Refusals
import SeriesQuery.Proofs.Regrouping
import SeriesQuery.Proofs.Bucket.RunningMaximum
import SeriesQuery.Proofs.Bucket.Frame
import SeriesQuery.Proofs.Increments.Window
import SeriesQuery.Proofs.Increments.Growth
import SeriesQuery.Proofs.Summary
import SeriesQuery.Proofs.Filter.BareWords
import SeriesQuery.Proofs.Filter.NormalForm
import SeriesQuery.Proofs.Filter.Agreement
import SeriesQuery.Proofs.Filter.Progress
import SeriesQuery.Proofs.Plan.Validation
import SeriesQuery.Proofs.Engine.Accounts
import SeriesQuery.Proofs.Reducer.Names
import SeriesQuery.Proofs.Reducer.Percentiles
import SeriesQuery.Proofs.Wire.Requests
